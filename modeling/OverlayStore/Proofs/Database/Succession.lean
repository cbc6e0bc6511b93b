import OverlayStore.Proofs.Database.Place

/-!
# Which records follow each other at a place

Under the standard policy, and as long as nothing is removed from a place, a remote record gives way
only to a remote record from the same address or to a local one, and a local record only to a local
one (`Record.Follows`). So a place that a local record has taken holds what was stored locally last,
and a record that is still remote comes from the address that the place has had all along
(`Database.kept_place_changes_hands_only_locally`).
-/

namespace OverlayStore

/-- A record may come after another one at the same place: it is local, or both are remote and their
creators have the same address. -/
def Record.Follows (next held : Record) : Prop :=
  next.isLocal = true ∨ held.isLocal = false ∧ next.creator.address = held.creator.address

namespace Record.Follows

theorem refl (record : Record) : record.Follows record := by
  cases h : record.isLocal with
  | true => exact .inl h
  | false => exact .inr ⟨h, rfl⟩

/-- What follows a follower follows. -/
theorem trans {last next held : Record} (h : last.Follows next) (h' : next.Follows held) :
    last.Follows held := by
  rcases h with hlocal | ⟨hnext, haddress⟩
  · exact .inl hlocal
  · rcases h' with hlocal | ⟨hheld, haddress'⟩
    · rw [hnext] at hlocal
      cases hlocal
    · exact .inr ⟨hheld, haddress.trans haddress'⟩

/-- A record that follows a local one is local. -/
theorem isLocal {next held : Record} (h : next.Follows held) (hheld : held.isLocal = true) :
    next.isLocal = true := by
  rcases h with hlocal | ⟨hremote, -⟩
  · exact hlocal
  · rw [hheld] at hremote
    cases hremote

end Record.Follows

namespace Database

/-- The record that a request stores locally at a place. -/
def Request.localStore? (key secondary : Key) : Request → Option Record
  | .store record =>
    if record.isLocal = true ∧ key = record.key ∧ secondary = record.secondary then some record
    else none
  | _ => none

/-- The records that a history stores locally at a place, in order. -/
def localStores (key secondary : Key) (history : List Request) : List Record :=
  history.filterMap (Request.localStore? key secondary)

namespace WellFormed

variable {db : Database} {key secondary : Key} {maxPerKey : Nat} {held : Record}

/-- What a request that removes nothing from a taken place leaves there. -/
theorem exists_follows_serve (h : db.WellFormed)
    (hpolicy : db.policy = some (Admission.standard maxPerKey))
    (hheld : db.find? key secondary = some held) {request : Request}
    (hkeeps : request.removes db key secondary = false) :
    ∃ next, (db.serve request).find? key secondary = some next ∧ next.Follows held ∧
      (held.isLocal = true → next = (request.localStore? key secondary).getD held) := by
  rw [h.find?_serve]
  -- where a request leaves the place alone, nothing has to be shown
  have unchanged : request.leaves db key secondary = some held →
      (held.isLocal = true → request.localStore? key secondary = none) →
      ∃ next, request.leaves db key secondary = some next ∧ next.Follows held ∧
        (held.isLocal = true → next = (request.localStore? key secondary).getD held) :=
    fun hleaves hnone => ⟨held, hleaves, .refl held, fun hlocal => by rw [hnone hlocal]; rfl⟩
  cases request with
  | store record =>
    by_cases hplace : key = record.key ∧ secondary = record.secondary
    · obtain ⟨rfl, rfl⟩ := hplace
      have hvalue : record.value.isEmpty = false := by simpa [Request.removes] using hkeeps
      have hleaves := Request.leaves_store db record hvalue
      cases hlocal : record.isLocal with
      | true =>
        rw [admits_of_isLocal hpolicy hlocal, if_pos rfl] at hleaves
        exact ⟨record, hleaves, .inl hlocal, fun _ => by simp [Request.localStore?, hlocal]⟩
      | false =>
        have hadmits := admits_of_find? hpolicy hheld hlocal
        by_cases hadmitted : db.admits record = true
        · -- the record that is replaced was remote and came from the same address
          rw [hadmitted, eq_comm, Bool.and_eq_true, Bool.and_eq_true, Bool.not_eq_true',
            decide_eq_true_eq] at hadmits
          obtain ⟨-, hremote, haddress⟩ := hadmits
          rw [if_pos hadmitted] at hleaves
          exact ⟨record, hleaves, .inr ⟨hremote, haddress.symm⟩,
            fun hheldLocal => by rw [hremote] at hheldLocal; cases hheldLocal⟩
        · rw [if_neg hadmitted, hheld] at hleaves
          exact unchanged hleaves fun _ => by simp [Request.localStore?, hlocal]
    · refine unchanged ?_ fun _ => ?_
      · rw [Request.leaves, if_neg hplace, hheld]
      · rw [Request.localStore?, if_neg fun hsame => hplace hsame.2]
  | remove k s =>
    have hother : ¬(key = k ∧ secondary = s) := by
      rintro ⟨rfl, rfl⟩
      simp [Request.removes] at hkeeps
    exact unchanged (by rw [Request.leaves, if_neg hother, hheld]) fun _ => rfl
  | retain keep =>
    have hkept : keep held = true := by simpa [Request.removes, hheld] using hkeeps
    exact unchanged (by rw [Request.leaves, hheld, Option.filter_some, if_pos hkept]) fun _ => rfl
  | clear => cases hkeeps
  | load k counted now => exact unchanged hheld fun _ => rfl
  | setPolicy policy => exact unchanged hheld fun _ => rfl

/-- What a history that removes nothing from a taken place leaves there. -/
theorem exists_follows_after (h : db.WellFormed)
    (hpolicy : db.policy = some (Admission.standard maxPerKey)) {history : List Request}
    (hhistory : ∀ request ∈ history, request.isPolicyChange = false)
    (hheld : db.find? key secondary = some held)
    (hkeeps : db.keepsPlace key secondary history = true) :
    ∃ last, (db.after history).find? key secondary = some last ∧ last.Follows held ∧
      (held.isLocal = true → last = (localStores key secondary history).getLast?.getD held) := by
  induction history generalizing db held with
  | nil => exact ⟨held, hheld, .refl held, fun _ => rfl⟩
  | cons request history ih =>
    rw [keepsPlace, Bool.and_eq_true, Bool.not_eq_true'] at hkeeps
    obtain ⟨hfirst, hrest⟩ := hkeeps
    have hchange := hhistory request List.mem_cons_self
    obtain ⟨next, hnext, hfollows, hlocal⟩ := h.exists_follows_serve hpolicy hheld hfirst
    obtain ⟨last, hlast, hfollows', hlocal'⟩ := ih (h.serve request)
      ((db.policy_serve hchange).trans hpolicy)
      (fun other hmem => hhistory other (List.mem_cons_of_mem request hmem)) hnext hrest
    refine ⟨last, hlast, hfollows'.trans hfollows, fun hheldLocal => ?_⟩
    -- a local store of the first request counts unless a later one follows
    rw [hlocal' (hfollows.isLocal hheldLocal), hlocal hheldLocal, localStores, localStores,
      List.filterMap_cons]
    cases request.localStore? key secondary with
    | none => rfl
    | some stored => rw [List.getLast?_cons]; rfl

end WellFormed

/-- Let the standard policy be installed from the start, and let a place hold a record. As long as
the place is kept, once it holds a local record it does so for good, and that record is the last one
that was stored there locally since; and if it still holds a remote record, that comes from the
address that the place was taken from. -/
theorem kept_place_changes_hands_only_locally (limits : FloodLimits) (loadRule : LoadRule)
    (maxPerKey : Nat) (before earlier later : List Request)
    (hpolicy : ∀ request ∈ before ++ earlier ++ later, request.isPolicyChange = false)
    (key secondary : Key) (first : Record) :
    let start : Database := { limits, loadRule, policy := some (Admission.standard maxPerKey) }
    let db := start.after before
    db.find? key secondary = some first →
    db.keepsPlace key secondary (earlier ++ later) = true →
    ∃ middle last, (db.after earlier).find? key secondary = some middle ∧
      (db.after (earlier ++ later)).find? key secondary = some last ∧
      (middle.isLocal = true → last.isLocal = true ∧
        last = (localStores key secondary later).getLast?.getD middle) ∧
      (last.isLocal = false → middle.isLocal = false ∧
        last.creator.address = first.creator.address) := by
  intro start db hfirst hkeeps
  simp only [List.mem_append, or_imp, forall_and] at hpolicy
  obtain ⟨⟨hbefore, hearlier⟩, hlater⟩ := hpolicy
  have hdb : db.WellFormed := (WellFormed.fresh limits loadRule _).after before
  have hstandard : db.policy = some (Admission.standard maxPerKey) := start.policy_after hbefore
  -- the time since the start is cut in two where the record in the middle is looked at
  rw [keepsPlace_append, Bool.and_eq_true] at hkeeps
  obtain ⟨middle, hmiddle, hfollows, -⟩ :=
    hdb.exists_follows_after hstandard hearlier hfirst hkeeps.1
  obtain ⟨last, hlast, hfollows', hlocal⟩ := (hdb.after earlier).exists_follows_after
    ((db.policy_after hearlier).trans hstandard) hlater hmiddle hkeeps.2
  have hafter : db.after (earlier ++ later) = (db.after earlier).after later := List.foldl_append
  refine ⟨middle, last, hmiddle, hafter ▸ hlast, fun hmiddleLocal => ?_, fun hremote => ?_⟩
  · exact ⟨hfollows'.isLocal hmiddleLocal, hlocal hmiddleLocal⟩
  · rcases hfollows'.trans hfollows with hlastLocal | ⟨-, haddress⟩
    · rw [hremote] at hlastLocal
      cases hlastLocal
    · refine ⟨eq_false_of_ne_true fun hmiddleLocal => ?_, haddress⟩
      rw [hfollows'.isLocal hmiddleLocal] at hremote
      cases hremote

/-- A creator's record is renewed from its own address and not from another one. Then the node takes
the place with a record of its own, and the creator is refused. -/
theorem kept_place_changes_hands_only_locally_of_takeover :
    let value : Value := ⟨.test, ⟨1, 0⟩, [118], by decide⟩
    let creator : Contact := ⟨.ones, .ofOctets 82 1 2 3 4000⟩
    let moved : Contact := ⟨.ones, .ofOctets 82 1 2 3 5000⟩
    let renewed : Record := .direct creator .zero value 1
    let own : Record := .own moved .zero value 2
    let earlier : List Request := [.store renewed, .store (.direct moved .zero value 2)]
    let later : List Request := [.load .zero true 3, .store (.direct creator .zero value 4)]
    let db := ({ policy := some (Admission.standard 1) } : Database).after
      [.store (.direct creator .zero value 0)]
    db.keepsPlace .zero .ones (earlier ++ [.store own] ++ later) = true ∧
      (db.after earlier).find? .zero .ones = some renewed ∧
      renewed.creator.address = creator.address ∧
      (db.after (earlier ++ [.store own] ++ later)).find? .zero .ones = some own := by
  intro value creator moved renewed own earlier later db
  let first : Record := .direct creator .zero value 0
  have hfirst : db.find? .zero .ones = some first := by decide
  have hkeeps : db.keepsPlace .zero .ones (earlier ++ [.store own] ++ later) = true := by decide
  have hrenewed : (db.after earlier).find? .zero .ones = some renewed := by decide
  have hown : (db.after (earlier ++ [.store own])).find? .zero .ones = some own := by decide
  obtain ⟨_, last, -, hlast, -, hremote⟩ := kept_place_changes_hands_only_locally {} {} 1
    [.store first] [] earlier (by decide) .zero .ones first hfirst (by decide)
  obtain rfl : last = renewed := Option.some.inj (hlast.symm.trans hrenewed)
  obtain ⟨middle, last, hmiddle, hlast', hlocal, -⟩ := kept_place_changes_hands_only_locally {} {} 1
    [.store first] (earlier ++ [.store own]) later (by decide) .zero .ones first hfirst
    (by decide)
  obtain rfl : middle = own := Option.some.inj (hmiddle.symm.trans hown)
  have hstays : last = own := (hlocal rfl).2
  exact ⟨hkeeps, hrenewed, (hremote rfl).2, hlast'.trans (congrArg some hstays)⟩

end Database

end OverlayStore
