import FxmlCodegen.Proofs.StandaloneDocument

/-!
# Naming one element after the other

`Element.identify` goes down a tree, hands the name of the nearest object to
the elements below and threads the taken names through all of them;
`Element.walk` keeps these objects on a stack instead. What they compute can
be told without recursion: clear the names, go through the paths of all
elements in document order and reserve the `fx:id` at each, then go through
them again and name the element at each (`Document.identifyFlat`). There the
nearest object is looked up among the ancestors in the tree as it is by
then.

All agree (`Document.identify_flat`). The proof keeps the tree in two
parts, the element being named and the frames it stands in, outside of which
its paths change nothing (`Frame.modifyAt_within`). The pass reserves names
in another order than the recursion takes them, so it also needs that only
their set matters (`Element.identify_congr`).
-/

namespace FxmlCodegen

/-! ## Places in a tree -/

/-- The element is an object to construct. -/
def Head.isDeclaration (h : Head) : Bool :=
  match h.kind with
  | .declaration _ => true
  | _ => false

namespace Element

/-- The head at a path of child positions. -/
def headAt? : Element → List Nat → Option Head
  | e, [] => some e.head
  | e, i :: path => e.children[i]?.bind (·.headAt? path)

/-- The heads around the element at a path, innermost first. -/
def around : Element → List Nat → List Head
  | _, [] => []
  | e, i :: path => e.children[i]?.elim [] (·.around path) ++ [e.head]

/-- The nearest object around the element at a path. What stands between
them, be it an include, a property or something without code, is passed
over. -/
def nearest? (e : Element) (path : List Nat) : Option Head :=
  (e.around path).find? Head.isDeclaration

mutual

/-- The paths of all elements, each before those of its children. -/
def paths : Element → List (List Nat)
  | mk _ cs => [] :: pathsFrom 0 cs

/-- The paths of children that start at this position. -/
def pathsFrom (i : Nat) : List Element → List (List Nat)
  | [] => []
  | e :: es => e.paths.map (i :: ·) ++ pathsFrom (i + 1) es

end

end Element

/-! ## The flat pass -/

/-- A fresh name as an identifier. -/
def Scope.identifier (s : Scope) (seed : String) : Option String × Scope :=
  let (name, s) := s.fresh seed
  (some name, s)

/-- The identifier of an element whose nearest object is called `owner`, and
the scope in which it is taken if it is new. -/
def Head.identifierIn (owner : String) (h : Head) (s : Scope) : Option String × Scope :=
  match h.identifier with
  | some x => (some x, s)
  | none =>
    match h.kind with
    | .declaration _ | .include _ =>
      match h.fxId, h.id with
      | some fxId, _ => (some fxId, s)
      | none, some id => s.identifier id
      | none, none => s.identifier h.name
    | .property _ => s.identifier (Text.lowerFirst owner ++ Text.upperFirst h.name)
    | _ => (none, s)

/-- Reserves the `fx:id` of the element at a path, if it has one. -/
def Element.reserveAt (root : Element) (s : Scope) (path : List Nat) : Scope :=
  match (root.headAt? path).bind Head.fxId with
  | some x => s.reserve x
  | none => s

/-- Names the element at a path. -/
def Element.nameAt (state : Element × Scope) (path : List Nat) : Element × Scope :=
  let (root, s) := state
  match root.headAt? path with
  | none => state
  | some h =>
    let owner := (root.nearest? path).elim "" Head.identifierText
    let (identifier, s) := h.identifierIn owner s
    (root.modifyAt (fun h => { h with identifier }) path, s)

/-- Names a document by going through its elements once, with their
`fx:id`s reserved beforehand. -/
def Document.identifyFlat (d : Document) (s : Scope) : Document × Scope :=
  let s := s.clearNames
  match d.root with
  | none => (d, s)
  | some root =>
    let s := root.paths.foldl root.reserveAt s
    let (root, s) := root.paths.foldl Element.nameAt (root, s)
    ({ d with root := some root }, s)

/-! ## Frames -/

/-- What stands around a child: the head of its parent and its siblings. -/
structure Frame where
  head : Head
  before : List Element
  after : List Element

namespace Frame

def fill (f : Frame) (e : Element) : Element := .mk f.head (f.before ++ e :: f.after)

/-- The tree in which an element stands in these frames, innermost first. -/
def within : List Frame → Element → Element
  | [], e => e
  | f :: fs, e => within fs (f.fill e)

/-- The path to the element in the innermost frame. -/
def path : List Frame → List Nat
  | [] => []
  | f :: fs => path fs ++ [f.before.length]

/-- The variable of the nearest object among the frames. -/
def owner (fs : List Frame) : String :=
  ((fs.map Frame.head).find? Head.isDeclaration).elim "" Head.identifierText

theorem owner_cons (f : Frame) (fs : List Frame) : owner (f :: fs) = f.head.ownerBelow (owner fs) := by
  unfold owner Head.ownerBelow
  cases hkind : f.head.kind <;> simp [Head.isDeclaration, hkind]

theorem getElem?_children_fill (f : Frame) (e : Element) :
    (f.fill e).children[f.before.length]? = some e := by
  show (f.before ++ e :: f.after)[f.before.length]? = some e
  rw [List.getElem?_append_right (Nat.le_refl _), Nat.sub_self, List.getElem?_cons_zero]

theorem modifyChildAt_append (g : Head → Head) (p : List Nat) (e : Element)
    (before after : List Element) :
    Element.modifyChildAt g p before.length (before ++ e :: after)
      = before ++ e.modifyAt g p :: after := by
  induction before with
  | nil =>
      rw [List.length_nil, List.nil_append, Element.modifyChildAt]
      rfl
  | cons b before ih =>
      rw [List.length_cons, List.cons_append, Element.modifyChildAt, ih]
      rfl

/-! A path into the tree that starts with the path to the element is a path
into the element, and changes nothing in the frames. -/

theorem headAt?_within (p : List Nat) :
    ∀ (fs : List Frame) (e : Element), (within fs e).headAt? (path fs ++ p) = e.headAt? p
  | [], _ => rfl
  | f :: fs, e => by
      rw [within, path, List.append_assoc, headAt?_within _ fs (f.fill e), List.singleton_append,
        Element.headAt?, f.getElem?_children_fill e]
      rfl

theorem around_within (p : List Nat) :
    ∀ (fs : List Frame) (e : Element),
      (within fs e).around (path fs ++ p) = e.around p ++ fs.map Frame.head
  | [], _ => (List.append_nil _).symm
  | f :: fs, e => by
      rw [within, path, List.append_assoc, around_within _ fs (f.fill e), List.singleton_append,
        Element.around, f.getElem?_children_fill e, List.map_cons, List.append_assoc]
      rfl

theorem modifyAt_within (g : Head → Head) (p : List Nat) :
    ∀ (fs : List Frame) (e : Element),
      (within fs e).modifyAt g (path fs ++ p) = within fs (e.modifyAt g p)
  | [], _ => rfl
  | f :: fs, e => by
      rw [within, path, List.append_assoc, modifyAt_within g _ fs (f.fill e),
        List.singleton_append, fill, Element.modifyAt, modifyChildAt_append]
      rfl

end Frame

/-! ## The pass is the recursion -/

theorem Head.identifierIn_eq (owner : String) (h : Head) (s : Scope) :
    h.identifierIn owner s = ((h.identify owner s.taken).1.identifier,
      { s with taken := (h.identify owner s.taken).2 }) := by
  obtain ⟨kind, name, fxId, id, identifier, attributes⟩ := h
  cases identifier with
  | some x => rfl
  | none =>
      cases kind with
      | declaration _ | «include» _ => cases fxId <;> cases id <;> rfl
      | _ => rfl

theorem Head.setIdentifier_identify (owner : String) (h : Head) (taken : List String) :
    { h with identifier := (h.identify owner taken).1.identifier }
      = (h.identify owner taken).1 := by
  rcases h.identify_cases owner taken with ⟨heq, -⟩ | ⟨x, -, -, heq⟩ | ⟨seed, -, -, -, heq⟩
    <;> rw [heq]

/-- The step at the path to an element names its head and nothing else. -/
theorem Element.nameAt_within (fs : List Frame) (h : Head) (cs : List Element) (s : Scope) :
    nameAt (Frame.within fs (mk h cs), s) (Frame.path fs)
      = (Frame.within fs (mk (h.identify (Frame.owner fs) s.taken).1 cs),
        { s with taken := (h.identify (Frame.owner fs) s.taken).2 }) := by
  have hhead := Frame.headAt?_within [] fs (mk h cs)
  have haround := Frame.around_within [] fs (mk h cs)
  have hset := Frame.modifyAt_within
    (fun g => { g with identifier := (h.identify (Frame.owner fs) s.taken).1.identifier })
    [] fs (mk h cs)
  rw [List.append_nil] at hhead haround hset
  rw [modifyAt, Head.setIdentifier_identify] at hset
  simp only [nameAt, nearest?, hhead, haround, headAt?, around, List.nil_append, head,
    Head.identifierIn_eq]
  exact congrArg (·, _) hset

namespace Element

mutual

/-- Going through the paths of an element names it, and what is inside, as
the recursion does with the nearest object among its frames. -/
theorem foldl_nameAt : ∀ (e : Element) (fs : List Frame) (s : Scope),
    (e.paths.map (Frame.path fs ++ ·)).foldl nameAt (Frame.within fs e, s)
      = (Frame.within fs (e.identify (Frame.owner fs) s.taken).1,
        { s with taken := (e.identify (Frame.owner fs) s.taken).2 })
  | mk h cs, fs, s => by
      rw [paths, List.map_cons, List.foldl_cons, List.append_nil, nameAt_within]
      exact foldl_nameAt_pathsFrom cs fs (h.identify (Frame.owner fs) s.taken).1 [] _

-- The children before these have been named, so they stand in front as they
-- are.
theorem foldl_nameAt_pathsFrom :
    ∀ (cs : List Element) (fs : List Frame) (h : Head) (before : List Element) (s : Scope),
      ((pathsFrom before.length cs).map (Frame.path fs ++ ·)).foldl nameAt
          (Frame.within fs (mk h (before ++ cs)), s)
        = (Frame.within fs
            (mk h (before ++ (identifyAll (h.ownerBelow (Frame.owner fs)) cs s.taken).1)),
          { s with taken := (identifyAll (h.ownerBelow (Frame.owner fs)) cs s.taken).2 })
  | [], _, _, _, _ => rfl
  | e :: es, fs, h, before, s => by
      have hfirst := foldl_nameAt e (⟨h, before, es⟩ :: fs) s
      have hpaths : e.paths.map (Frame.path (⟨h, before, es⟩ :: fs) ++ ·)
          = (e.paths.map (before.length :: ·)).map (Frame.path fs ++ ·) := by
        simp [Frame.path]
      rw [hpaths, Frame.owner_cons] at hfirst
      have hrest := foldl_nameAt_pathsFrom es fs h
        (before ++ [(e.identify (h.ownerBelow (Frame.owner fs)) s.taken).1])
        { s with taken := (e.identify (h.ownerBelow (Frame.owner fs)) s.taken).2 }
      rw [List.length_append, List.length_singleton, List.append_assoc, List.append_assoc] at hrest
      rw [pathsFrom, List.map_append, List.foldl_append]
      exact (congrArg (List.foldl nameAt · _) hfirst).trans hrest

end

theorem foldl_nameAt_paths (root : Element) (s : Scope) :
    root.paths.foldl nameAt (root, s)
      = ((root.identify "" s.taken).1, { s with taken := (root.identify "" s.taken).2 }) := by
  have hpass := foldl_nameAt root [] s
  have hpaths : root.paths.map (Frame.path [] ++ ·) = root.paths := List.map_id' _
  rwa [hpaths] at hpass

mutual

/-- The paths of a tree lead to its heads in document order. -/
theorem map_headAt?_paths : ∀ e : Element, e.paths.map e.headAt? = e.preorder.map some
  | mk h cs => by
      rw [paths, preorder, preorderWhere, if_pos rfl, List.map_cons, List.map_cons]
      exact congrArg (some h :: ·) (map_headAt?_pathsFrom h cs [])

theorem map_headAt?_pathsFrom (h : Head) : ∀ cs before : List Element,
    (pathsFrom before.length cs).map (mk h (before ++ cs)).headAt?
      = (preorderAllWhere (fun _ => true) cs).map some
  | [], _ => rfl
  | c :: cs, before => by
      have hfirst : (c.paths.map (before.length :: ·)).map (mk h (before ++ c :: cs)).headAt?
          = c.paths.map c.headAt? := by
        rw [List.map_map]
        refine List.map_congr_left fun p _ => ?_
        exact Frame.headAt?_within p [⟨h, before, cs⟩] c
      have hrest := map_headAt?_pathsFrom h cs (before ++ [c])
      rw [List.length_append, List.length_singleton, List.append_assoc] at hrest
      rw [pathsFrom, preorderAllWhere, List.map_append, List.map_append, hfirst,
        map_headAt?_paths c]
      exact congrArg _ hrest

end

end Element

/-! ## Only the set of taken names matters -/

theorem Head.identify_congr {taken taken' : List String} (hsame : ∀ x, x ∈ taken ↔ x ∈ taken')
    (owner : String) (h : Head) :
    (h.identify owner taken).1 = (h.identify owner taken').1
      ∧ ∀ x, x ∈ (h.identify owner taken).2 ↔ x ∈ (h.identify owner taken').2 := by
  rcases h.identify_forms owner with ⟨heq, -⟩ | ⟨x, -, -, heq⟩ | ⟨-, -, -, heq⟩
  · rw [heq, heq]
    exact ⟨rfl, hsame⟩
  · rw [heq, heq]
    exact ⟨rfl, hsame⟩
  · rw [heq, heq, identifyFresh, identifyFresh, freshName_congr hsame]
    refine ⟨rfl, fun x => ?_⟩
    simp only [List.mem_cons, hsame]

namespace Element

mutual

theorem identify_congr : ∀ (e : Element) (owner : String) {taken taken' : List String},
    (∀ x, x ∈ taken ↔ x ∈ taken') →
      (e.identify owner taken).1 = (e.identify owner taken').1
        ∧ ∀ x, x ∈ (e.identify owner taken).2 ↔ x ∈ (e.identify owner taken').2
  | mk h cs, owner, taken, taken', hsame => by
      obtain ⟨hhead, htaken⟩ := h.identify_congr hsame owner
      obtain ⟨hchildren, hrest⟩ :=
        identifyAll_congr cs ((h.identify owner taken).1.ownerBelow owner) htaken
      simp only [identify]
      rw [← hhead]
      exact ⟨by rw [hchildren], hrest⟩

theorem identifyAll_congr : ∀ (es : List Element) (owner : String) {taken taken' : List String},
    (∀ x, x ∈ taken ↔ x ∈ taken') →
      (identifyAll owner es taken).1 = (identifyAll owner es taken').1
        ∧ ∀ x, x ∈ (identifyAll owner es taken).2 ↔ x ∈ (identifyAll owner es taken').2
  | [], _, _, _, hsame => ⟨rfl, hsame⟩
  | e :: es, owner, taken, taken', hsame => by
      obtain ⟨hfirst, htaken⟩ := identify_congr e owner hsame
      obtain ⟨hothers, hrest⟩ := identifyAll_congr es owner htaken
      simp only [identifyAll]
      exact ⟨by rw [hfirst, hothers], hrest⟩

end

end Element

/-! ## Documents -/

theorem Scope.foldl_reserve : ∀ (names : List String) (s : Scope),
    names.foldl Scope.reserve s = { s with taken := names.reverse ++ s.taken }
  | [], _ => rfl
  | name :: names, s => by
      rw [List.foldl_cons, foldl_reserve names (s.reserve name), List.reverse_cons,
        List.append_assoc]
      rfl

/-- The `fx:id`s at the paths of a tree are all there are. -/
theorem Element.foldl_reserveAt (root : Element) (s : Scope) :
    root.paths.foldl root.reserveAt s = { s with taken := root.fxIds.reverse ++ s.taken } := by
  have hfxIds : root.paths.filterMap (fun path => (root.headAt? path).bind Head.fxId)
      = root.fxIds := by
    calc root.paths.filterMap (fun path => (root.headAt? path).bind Head.fxId)
        = (root.paths.map root.headAt?).filterMap (·.bind Head.fxId) := by
          rw [List.filterMap_map]
          rfl
      _ = root.fxIds := by
          rw [root.map_headAt?_paths, List.filterMap_map]
          rfl
  rw [← Scope.foldl_reserve, ← hfxIds, List.foldl_filterMap]
  congr 1
  funext s path
  unfold reserveAt
  cases (root.headAt? path).bind Head.fxId with
  | none => rfl
  | some x => rfl

/-- The pass over the paths gives the tree, and takes the names, that the
recursion gives and takes. -/
theorem Document.identifyFlat_eq (d : Document) (s : Scope) :
    (d.identify s).1 = (d.identifyFlat s).1
      ∧ ∀ x, x ∈ (d.identify s).2.taken ↔ x ∈ (d.identifyFlat s).2.taken := by
  obtain ⟨name, root, instructions⟩ := d
  cases root with
  | none => exact ⟨rfl, fun x => Iff.rfl⟩
  | some root =>
      -- The names are reserved one by one, so the last comes first in the list.
      have hreserved : ∀ x, x ∈ root.fxIds ↔ x ∈ root.fxIds.reverse ++ s.clearNames.taken := by
        intro x
        simp [Scope.clearNames]
      obtain ⟨hroot, htaken⟩ := root.identify_congr "" hreserved
      simp only [identify, identifyFlat, Element.foldl_reserveAt, Element.foldl_nameAt_paths]
      exact ⟨by rw [hroot], htaken⟩

/-- Naming a document gives the tree, and takes the names, that going once
through its elements gives and takes. So does the walk that keeps the objects
around on a stack, which is empty at the end. The paths gone through are
those of all elements, in document order. -/
theorem Document.identify_flat (d : Document) (s : Scope) :
    (d.identify s).1 = (d.identifyFlat s).1
      ∧ (∀ x, x ∈ (d.identify s).2.taken ↔ x ∈ (d.identifyFlat s).2.taken)
      ∧ (∀ around, (d.walk ⟨s, around⟩).1 = (d.identifyFlat s).1
        ∧ (∀ x, x ∈ (d.walk ⟨s, around⟩).2.scope.taken ↔ x ∈ (d.identifyFlat s).2.taken)
        ∧ (d.walk ⟨s, around⟩).2.around = [])
      ∧ ∀ root : Element, root.paths.map root.headAt? = root.preorder.map some := by
  obtain ⟨htree, htaken⟩ := d.identifyFlat_eq s
  refine ⟨htree, htaken, fun around => ?_, Element.map_headAt?_paths⟩
  rw [d.walk_eq]
  exact ⟨htree, htaken, rfl⟩

end FxmlCodegen
