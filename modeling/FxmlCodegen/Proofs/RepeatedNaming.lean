import FxmlCodegen.Proofs.FactoryMethods

/-!
# Naming again and again

Naming puts names where they are missing and changes nothing else
(`Head.Completes`): a head that has the name it needs stays as it is, with
or without others that were named before, and so does one that needs none.
Documents that have been named are therefore left alone from then on, in
whatever scope they are named again.

The include targets are written anew each time, and of several documents
with one key each overwrites what an earlier one has put there. What can be
found under a key does not depend on that history: it is the controller, or
the root type, of the last document with the key that has one
(`Document.lastWith?`), and only if none has, what was there before. To
write all of them once more gives the same (`Document.Settled.round`), so
any number of rounds does (`Document.identifyAll_rounds`).
-/

namespace FxmlCodegen

/-! ## What naming changes -/

/-- The second head is the first with its name, if it needs one. Only where
that was missing are they different. -/
inductive Head.Completes : (h h' : Head) → Prop
  | keep {h : Head} (has : h.needsName = true → ∃ x, h.identifier = some x) : Completes h h
  | name {h : Head} (needs : h.needsName = true) (missing : h.identifier = none) (x : String) :
      Completes h { h with identifier := some x }

theorem NamingPass.completes {hs hs' : List Head} {taken taken' : List String}
    (pass : NamingPass hs taken hs' taken') : List.Forall₂ Head.Completes hs hs' := by
  induction pass with
  | nil => exact .nil
  | @cons h _ _ taken _ owner _ ih =>
      refine .cons ?_ ih
      rcases h.identify_cases owner taken with
        ⟨heq, hhas⟩ | ⟨x, hnone, hx, heq⟩ | ⟨seed, hnone, -, hneeds, heq⟩
      · rw [heq]
        exact .keep hhas
      · rw [heq]
        exact .name (Head.needsName_of_ownFxId hx) hnone x
      · rw [heq]
        exact .name hneeds hnone _

namespace Document

/-- The documents are the same but for names that were missing. -/
structure Completes (d d' : Document) : Prop where
  name : d'.name = d.name
  instructions : d'.instructions = d.instructions
  /-- Without their names the trees are equal. -/
  tree : d'.root.map Element.unnamed = d.root.map Element.unnamed
  heads : List.Forall₂ Head.Completes d.heads d'.heads

theorem completes_named (d : Document) : d.Completes d.named := by
  obtain ⟨taken, pass⟩ := d.identify_pass {}
  refine ⟨d.name_named, d.instructions_named, ?_, pass.completes⟩
  obtain ⟨name, root, instructions⟩ := d
  cases root with
  | none => rfl
  | some root => exact congrArg some (root.unnamed_identify "" root.fxIds)

end Document

/-! ## What includes find -/

theorem Table.get?_elim_put {α : Type} (t : Table α) (key other : String) (value : Option α) :
    (value.elim t (t.put key)).get? other
      = (if key = other then value else none).or (t.get? other) := by
  cases value with
  | none => simp
  | some value => exact t.get?_put key other value

namespace Document

/-- Naming a document puts its controller and its root type under its
key, as far as it has them. -/
theorem targets_identify (d : Document) (s : Scope) :
    (d.identify s).2.controllers = d.controller?.elim s.controllers (s.controllers.put d.includeKey)
      ∧ (d.identify s).2.factories
        = d.rootType?.elim s.factories (s.factories.put d.includeKey) := by
  rw [(d.identify_targets s).1, (d.identify_targets s).2]
  obtain ⟨name, root, instructions⟩ := d
  cases root with
  | none => exact ⟨rfl, rfl⟩
  | some root =>
      obtain ⟨h, cs⟩ := root
      unfold register controller? rootType? rootObject?
      cases hkind : h.kind with
      | declaration controller =>
          cases controller <;> simp [Element.head, hkind, Scope.addController, Scope.addFactory]
      | _ => simp [Element.head, hkind]

section LastWith

variable {α : Type} (own : Document → Option α)

/-- What the last document of this key that has something has. -/
def lastWith? (key : String) (ds : List Document) : Option α :=
  ds.reverse.findSome? fun d => if d.includeKey = key then own d else none

theorem lastWith?_cons (key : String) (d : Document) (ds : List Document) :
    lastWith? own key (d :: ds)
      = (lastWith? own key ds).or (if d.includeKey = key then own d else none) := by
  rw [lastWith?, List.reverse_cons, List.findSome?_append, List.findSome?_singleton]
  rfl

variable {own}

theorem lastWith?_map_named (hown : ∀ d, own d.named = own d) (key : String) (ds : List Document) :
    lastWith? own key (ds.map named) = lastWith? own key ds := by
  rw [lastWith?, ← List.map_reverse, List.findSome?_map]
  congr 1
  funext d
  rw [Function.comp, hown, includeKey, includeKey, name_named]

/-- Tables into which every document puts what it has hold what the last
one had. -/
theorem get?_identifyAll {table : Scope → Table α}
    (hput : ∀ d s, table (identify d s).2 = (own d).elim (table s) ((table s).put d.includeKey))
    (key : String) : ∀ (ds : List Document) (s : Scope),
      (table (identifyAll ds s).2).get? key = (lastWith? own key ds).or ((table s).get? key)
  | [], _ => rfl
  | d :: ds, s => by
      rw [lastWith?_cons, Option.or_assoc, ← Table.get?_elim_put, ← hput]
      exact get?_identifyAll hput key ds (d.identify s).2

end LastWith

/-! ## Naming again and again -/

/-- One more naming of documents, in the scope they were named in or in some
other one. -/
inductive Round where
  | here
  | elsewhere (s : Scope)

/-- The documents and their scope after one more naming. -/
def Round.run (state : List Document × Scope) : Round → List Document × Scope
  | here => identifyAll state.1 state.2
  | elsewhere s => ((identifyAll state.1 s).1, state.2)

/-- The documents have their names, and under each key is what the last of
them has for it or else what was there before. -/
structure Settled (ds : List Document) (s : Scope) (state : List Document × Scope) : Prop where
  documents : state.1 = ds.map named
  controllers : ∀ key, state.2.controllers.get? key
    = (lastWith? controller? key ds).or (s.controllers.get? key)
  factories : ∀ key, state.2.factories.get? key
    = (lastWith? rootType? key ds).or (s.factories.get? key)

theorem settled_identifyAll (ds : List Document) (s : Scope) :
    Settled ds s (identifyAll ds s) where
  documents := identifyAll_fst ds s
  controllers key := get?_identifyAll (fun d s => (d.targets_identify s).1) key ds s
  factories key := get?_identifyAll (fun d s => (d.targets_identify s).2) key ds s

namespace Settled

variable {ds : List Document} {s : Scope} {state : List Document × Scope}

/-- Every document puts what it had put before, so that the last one has
the last word again. -/
theorem round (hsettled : Settled ds s state) (round : Round) :
    Settled ds s (round.run state) := by
  obtain ⟨docs, scope⟩ := state
  obtain ⟨hdocs, hcontrollers, hfactories⟩ := hsettled
  cases hdocs
  cases round with
  | here =>
      have hround := settled_identifyAll (ds.map named) scope
      refine ⟨hround.documents.trans (map_named_named ds), fun key => ?_, fun key => ?_⟩
      · rw [Round.run, hround.controllers, hcontrollers, lastWith?_map_named controller?_named,
          ← Option.or_assoc, Option.or_self]
      · rw [Round.run, hround.factories, hfactories, lastWith?_map_named rootType?_named,
          ← Option.or_assoc, Option.or_self]
  | elsewhere s' => exact ⟨(identifyAll_fst _ s').trans (map_named_named ds), hcontrollers, hfactories⟩

theorem rounds : ∀ (rounds : List Round) {state : List Document × Scope}, Settled ds s state →
    Settled ds s (rounds.foldl Round.run state)
  | [], _, hsettled => hsettled
  | round :: rounds, _, hsettled => Settled.rounds rounds (hsettled.round round)

end Settled

/-- Naming documents changes nothing in them but to put names where they
are missing. However often they are named after that, the documents stay as
they are, and so does all that can be found under a key. -/
theorem identifyAll_rounds (ds : List Document) (s : Scope) :
    List.Forall₂ Completes ds (identifyAll ds s).1
      ∧ ∀ rounds : List Round,
        (rounds.foldl Round.run (identifyAll ds s)).1 = (identifyAll ds s).1
          ∧ ∀ key,
            (rounds.foldl Round.run (identifyAll ds s)).2.controllers.get? key
                = (identifyAll ds s).2.controllers.get? key
              ∧ (rounds.foldl Round.run (identifyAll ds s)).2.factories.get? key
                = (identifyAll ds s).2.factories.get? key := by
  refine ⟨?_, fun rounds => ?_⟩
  · rw [identifyAll_fst, List.forall₂_map_right_iff, List.forall₂_same]
    exact fun d _ => d.completes_named
  · have hfirst := settled_identifyAll ds s
    have hlast := hfirst.rounds rounds
    refine ⟨hlast.documents.trans hfirst.documents.symm, fun key => ⟨?_, ?_⟩⟩
    · exact (hlast.controllers key).trans (hfirst.controllers key).symm
    · exact (hlast.factories key).trans (hfirst.factories key).symm

end Document

end FxmlCodegen
