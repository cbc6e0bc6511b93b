import Mathlib.Data.List.Induction
import OverlayStore.Catalogue
import OverlayStore.Proofs.Registration

/-!
# What a catalogue collects

The sources of a catalogue are asked one after the other, in the order of the registrations that
stand, each as often as it is registered; what one of them offers up to its first gap goes into the
snapshot, whatever the others offer (`Catalogue.snapshotM_in_order`). Nothing is assumed of the
sources: asking one may have effects, and it may answer differently each time.
-/

namespace OverlayStore

/-- A rejected registration leaves a catalogue as it is. -/
def Catalogue.change {σ : Type} (catalogue : Catalogue σ) : RegistryChange Nat → Catalogue σ
  | .register type number =>
    match catalogue.register type number with
    | .ok (_, changed) => changed
    | .error _ => catalogue
  | .unregister type => (catalogue.unregister type).2

namespace Catalogue

variable {σ : Type}

/-- The catalogue that several changes leave behind. -/
def afterAll (catalogue : Catalogue σ) (changes : List (RegistryChange Nat)) : Catalogue σ :=
  changes.foldl change catalogue

/-! ## The registered types -/

theorem sources_change (catalogue : Catalogue σ) (change : RegistryChange Nat) :
    (catalogue.change change).sources = catalogue.sources := by
  cases change with
  | register type number =>
    rw [Catalogue.change, register]
    cases type.isAny <;> rfl
  | unregister type => rfl

/-- What a change makes of the registrations. -/
theorem entries_change {catalogue : Catalogue σ}
    (hany : ∀ entry ∈ catalogue.entries.entries, entry.1 ≠ ValueType.anyCode)
    (change : RegistryChange Nat) :
    (catalogue.change change).entries.entries =
      catalogue.entries.entries.filter (fun entry => entry.1 ≠ change.code) ++
        RegistryChange.standing [change] := by
  cases change with
  | unregister type => exact (List.append_nil _).symm
  | register type number =>
    rw [Catalogue.change, register]
    by_cases htype : type.isAny = true
    · -- there is nothing that a rejected registration could have taken away
      have hkept : catalogue.entries.entries.filter (fun entry => entry.1 ≠ type.code) =
          catalogue.entries.entries := by
        refine List.filter_eq_self.mpr fun entry hmem => decide_eq_true ?_
        exact of_decide_eq_true htype ▸ hany entry hmem
      rw [if_pos htype, RegistryChange.standing_singleton_of_isAny htype]
      exact hkept.symm.trans (List.append_nil _).symm
    · rw [if_neg htype, RegistryChange.standing_singleton (eq_false_of_ne_true htype)]
      exact Table.entries_insertLast _ _ _

/-- The registered types are those whose registrations stand, in the same order. -/
theorem entries_afterAll (sources : List σ) (changes : List (RegistryChange Nat)) :
    (({ sources } : Catalogue σ).afterAll changes).entries.entries =
      RegistryChange.standing changes := by
  induction changes using List.reverseRecOn with
  | nil => rfl
  | append_singleton changes change ih =>
    have hany := fun entry (hmem : entry ∈ RegistryChange.standing changes) =>
      RegistryChange.ne_anyCode_of_mem_standing hmem
    rw [← ih] at hany
    rw [RegistryChange.standing_concat, ← ih, ← entries_change hany, afterAll, List.foldl_append]
    rfl

theorem sources_afterAll (catalogue : Catalogue σ) (changes : List (RegistryChange Nat)) :
    (catalogue.afterAll changes).sources = catalogue.sources := by
  induction changes generalizing catalogue with
  | nil => rfl
  | cons change changes ih => exact (ih _).trans (sources_change catalogue change)

/-! ## Asking the sources -/

/-- The items before the first gap are the longest prefix without gaps. -/
theorem map_some_prefix_iff {α : Type} (items : List (Option α)) (front : List α) :
    front.map some <+: items ↔ front <+: beforeGap items := by
  induction items generalizing front with
  | nil => cases front <;> simp [beforeGap]
  | cons item items ih =>
    cases front with
    | nil => simp
    | cons first front =>
      cases item with
      | none => simp [beforeGap]
      | some item => simp [beforeGap, ih]

/-- Collecting from one source after the other is asking them all in the same order. -/
theorem snapshotM_eq {m : Type → Type} [Monad m] [LawfulMonad m] (catalogue : Catalogue σ)
    (ask : Nat → m (Option (List (Option Publication)))) :
    catalogue.snapshotM ask = do
      let answers ← catalogue.entries.values.mapM ask
      return answers.flatMap part := by
  -- what has been collected grows at the back, so the induction is for any beginning
  have hcollect : ∀ (numbers : List Nat) (collected : List Publication),
      numbers.foldlM (fun collected number => do
        let offered ← ask number
        return collected ++ part offered) collected = do
      let answers ← numbers.mapM ask
      return collected ++ answers.flatMap part := by
    intro numbers
    induction numbers with
    | nil => simp
    | cons number numbers ih =>
      intro collected
      simp only [List.foldlM_cons, List.mapM_cons, List.flatMap_cons, bind_assoc, pure_bind, ih,
        List.append_assoc]
  exact hcollect catalogue.entries.values []

/-- Where only the sources of the catalogue are told, each is changed as often as it is
registered. -/
theorem sources_noteContactChange [Source σ] (catalogue : Catalogue σ) :
    catalogue.noteContactChange.sources = catalogue.entries.values.foldl
      (fun sources number => sources.modify number Source.noteContactChange)
      catalogue.sources := by
  have htell : ∀ (numbers : List Nat) (catalogue : Catalogue σ),
      (StateT.run (m := Id) (numbers.forM fun number =>
        modify fun catalogue : Catalogue σ =>
          catalogue.modifySource number Source.noteContactChange) catalogue).2.sources =
      numbers.foldl (fun sources number => sources.modify number Source.noteContactChange)
        catalogue.sources := by
    intro numbers
    induction numbers with
    | nil => exact fun _ => rfl
    | cons number numbers ih => exact fun catalogue => ih (catalogue.modifySource number _)
  exact htell _ catalogue

/-- The registrations that stand are what is registered, no type twice. A snapshot asks their
sources in this order, each as often as it is registered, and is made of what each answer holds
before its first gap, one after the other; an answer that there is nothing adds nothing. A change of
the node's contact is told to the same sources in the same order. This is so whatever asking and
telling does, and also where the sources are those that the catalogue holds. -/
theorem snapshotM_in_order {m : Type → Type} [Monad m] [LawfulMonad m] [Source σ]
    (sources : List σ) (changes : List (RegistryChange Nat)) :
    let catalogue := ({ sources } : Catalogue σ).afterAll changes
    let order := (RegistryChange.standing changes).map Prod.snd
    catalogue.entries.entries = RegistryChange.standing changes ∧
    ((RegistryChange.standing changes).map Prod.fst).Nodup ∧
    (∀ ask : Nat → m (Option (List (Option Publication))),
      catalogue.snapshotM ask = do
        let answers ← order.mapM ask
        return answers.flatMap part) ∧
    part none = [] ∧
    (∀ items front, front.map some <+: items ↔ front <+: part (some items)) ∧
    (∀ tell : Nat → m Unit, catalogue.noteContactChangeM tell = order.forM tell) ∧
    catalogue.snapshot =
      order.flatMap (fun number => part ((sources[number]?).bind Source.offer)) ∧
    catalogue.noteContactChange.sources = order.foldl
      (fun sources number => sources.modify number Source.noteContactChange) sources := by
  intro catalogue order
  have hentries : catalogue.entries.entries = RegistryChange.standing changes :=
    entries_afterAll sources changes
  have hvalues : catalogue.entries.values = order := congrArg (List.map Prod.snd) hentries
  have hsources : catalogue.sources = sources := sources_afterAll { sources } changes
  -- each reading of the catalogue goes through its values, which are the order
  refine ⟨hentries, RegistryChange.nodup_standing changes, fun ask => ?_, rfl, map_some_prefix_iff,
    fun tell => ?_, ?_, ?_⟩
  · rw [snapshotM_eq, hvalues]
  · rw [noteContactChangeM, hvalues]
  · rw [snapshot_eq, hvalues]
    refine List.flatMap_congr fun number _ => ?_
    rw [source?, hsources]
    cases sources[number]? <;> rfl
  · rw [sources_noteContactChange, hvalues, hsources]

/-- The types of codes 1 and 2 end up with the same source, and the second of them behind the type
of code 4. This source answers with a gap and the other one with nothing. The log tells who was
asked, and in which order. -/
theorem snapshotM_in_order_of_shared_source :
    let type (code : UInt32) : ValueType := ⟨code, .pinned⟩
    let changes : List (RegistryChange Nat) :=
      [.register (type 1) 0, .register (type 2) 1, .register .any 1, .register (type 3) 0,
        .register (type 4) 1, .unregister (type 3), .register (type 2) 0]
    let catalogue := ({ sources := [{}, {}] } : Catalogue Shelf).afterAll changes
    let publication : Publication := ⟨0, .zero, .sample "text"⟩
    let ask (number : Nat) : StateM (List Nat) (Option (List (Option Publication))) := do
      modify (· ++ [number])
      return if number = 0 then some [some publication, none, some publication] else none
    (catalogue.snapshotM ask).run [] = ([publication, publication], [0, 1, 0]) := by
  intro type changes catalogue publication ask
  obtain ⟨-, -, hask, -⟩ := snapshotM_in_order (m := StateM (List Nat)) [({} : Shelf), {}] changes
  exact (congrArg (StateT.run (m := Id) · []) (hask ask)).trans rfl

end Catalogue

end OverlayStore
