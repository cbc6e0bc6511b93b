import OverlayStore.Proofs.Database.History

/-!
# The plain store

What a database is meant to be: a finite map from pairs of a primary and a secondary key to records.
It keeps no bags and no counts. Whenever its admission needs a number, it counts the records of the
map again.
-/

namespace OverlayStore

/-- A finite map from pairs of keys to records, with what decides on admission. -/
structure PlainStore where
  /-- The fixed limits. -/
  limits : FloodLimits
  /-- The policy that has the last word on admission. -/
  policy : Option Admission.Policy
  /-- The records by primary and secondary key. -/
  map : Table (Key × Key) Record := .empty

namespace PlainStore

/-! ## Looking -/

/-- All records, in no meaningful order. -/
def records (plain : PlainStore) : List Record := plain.map.values

/-- The primary keys that occur, in no meaningful order. -/
def keys (plain : PlainStore) : List Key := (plain.map.keys.map Prod.fst).dedup

/-- The record under a primary and a secondary key. -/
def find? (plain : PlainStore) (key secondary : Key) : Option Record :=
  plain.map.find? (key, secondary)

/-- The records under a primary key, by their secondary keys. -/
def under (plain : PlainStore) (key : Key) : Table Key Record where
  entries := (plain.map.entries.filter fun entry => entry.1.1 = key).map fun entry =>
    (entry.1.2, entry.2)
  nodup := by
    -- under one primary key, different pairs differ in their secondary keys
    rw [List.map_map]
    refine List.Nodup.map_on ?_ ((List.Nodup.of_map _ plain.map.nodup).filter _)
    rintro ⟨⟨k₁, s₁⟩, r₁⟩ hm₁ ⟨⟨k₂, s₂⟩, r₂⟩ hm₂ (rfl : s₁ = s₂)
    simp only [List.mem_filter, decide_eq_true_eq, Table.mem_entries_iff] at hm₁ hm₂
    obtain ⟨⟨hfound₁, rfl⟩, ⟨hfound₂, rfl⟩⟩ := hm₁, hm₂
    rw [hfound₁] at hfound₂
    rw [Option.some.inj hfound₂]

/-- The records under a primary key as a bag that nobody has asked for yet, if there are any. -/
def bag? (plain : PlainStore) (key : Key) : Option Bag :=
  let records := plain.under key
  if records.isEmpty then none else some { key, records }

/-- The number of remote records from where a record comes from, as the mask tells places apart.
There are none for a local record, and none for a creator without an IPv4 form. -/
def remoteLike (plain : PlainStore) (mask : UInt32) (record : Record) : Nat :=
  if record.isLocal then 0
  else
    match record.creator.maskedIpv4 mask with
    | none => 0
    | some origin => plain.records.countP fun other =>
        !other.isLocal && other.creator.maskedIpv4 mask = some origin

/-- What admission policies see of the store. -/
def view (plain : PlainStore) : Admission.View where
  keyCount := plain.keys.length
  valueCount := plain.records.length
  contains key secondary := (plain.find? key secondary).isSome
  perAddress := plain.remoteLike Contact.addressMask
  perNetwork := plain.remoteLike Contact.networkMask

/-! ## Admission -/

/-- The record that would be replaced is a remote one from the same place. -/
def replacesSame (plain : PlainStore) (mask : UInt32) (record : Record) : Bool :=
  match plain.find? record.key record.secondary with
  | none => false
  | some previous =>
    !previous.isLocal && (previous.creator.maskedIpv4 mask).isSome &&
      previous.creator.maskedIpv4 mask = record.creator.maskedIpv4 mask

/-- A limit refuses a record: the place that it comes from has reached the maximum, and the record
replaces none from there. -/
def exceeds (plain : PlainStore) (limit : Option Nat) (mask : UInt32) (record : Record) : Bool :=
  match limit with
  | none => false
  | some max => !plain.replacesSame mask record && max ≤ plain.remoteLike mask record

/-- The fixed limits refuse a record, which has to be remote. -/
def refuses (plain : PlainStore) (record : Record) : Bool :=
  !record.isLocal &&
    (plain.limits.validateCreator && !record.isDirect &&
        (!record.creator.hasValidAddress || record.creator.hasPrivateAddress) ||
      plain.exceeds plain.limits.maxPerAddress Contact.addressMask record ||
      plain.exceeds plain.limits.maxPerNetwork Contact.networkMask record)

/-- A record may be stored: the limits do not refuse it, and the policy lets it in. -/
def admits (plain : PlainStore) (record : Record) : Bool :=
  !plain.refuses record &&
    match plain.policy with
    | none => true
    | some policy => policy plain.view (plain.bag? record.key) record

/-! ## Changing -/

/-- Store a record, and answer whether that changed anything. An empty value deletes the pair. -/
def store (plain : PlainStore) (record : Record) : Bool × PlainStore :=
  let pair := (record.key, record.secondary)
  if record.value.isEmpty then
    ((plain.map.find? pair).isSome, { plain with map := plain.map.erase pair })
  else if plain.admits record then (true, { plain with map := plain.map.insert pair record })
  else (false, plain)

/-- Delete a pair, and answer its record. -/
def remove (plain : PlainStore) (key secondary : Key) : Option Record × PlainStore :=
  (plain.find? key secondary, { plain with map := plain.map.erase (key, secondary) })

/-- Delete all records that do not satisfy a condition, and answer them. -/
def retain (plain : PlainStore) (keep : Record → Bool) : List Record × PlainStore :=
  (plain.records.filter fun record => !keep record,
    { plain with map := plain.map.filter fun _ record => keep record })

/-- The store that a request leaves behind. Request loads are not its business. -/
def serve (plain : PlainStore) : Database.Request → PlainStore
  | .store record => (plain.store record).2
  | .remove key secondary => (plain.remove key secondary).2
  | .retain keep => (plain.retain keep).2
  | .clear => { plain with map := .empty }
  | .load _ _ _ => plain
  | .setPolicy policy => { plain with policy }

/-- The store after a history. -/
def after (plain : PlainStore) (history : List Database.Request) : PlainStore :=
  history.foldl serve plain

/-! ## Lemmas on look-up -/

/-- What is under a primary key is found by its secondary key. -/
@[simp]
theorem find?_under (plain : PlainStore) (key secondary : Key) :
    (plain.under key).find? secondary = plain.find? key secondary := by
  refine Option.ext fun record => ?_
  have hunder : (secondary, record) ∈ (plain.under key).entries ↔
      ((key, secondary), record) ∈ plain.map.entries := by
    simp [under]
  rw [← Table.mem_entries_iff, hunder, Table.mem_entries_iff, find?]

/-- A pair that is put in finds its record, and all other pairs find what they did. -/
theorem find?_insert (plain : PlainStore) (pair : Key × Key) (record : Record)
    (key secondary : Key) :
    (plain.map.insert pair record).find? (key, secondary) =
      if key = pair.1 ∧ secondary = pair.2 then some record else plain.find? key secondary := by
  simp [find?, Prod.ext_iff]

/-- A pair that is taken out finds nothing, and all other pairs find what they did. -/
theorem find?_erase (plain : PlainStore) (pair : Key × Key) (key secondary : Key) :
    (plain.map.erase pair).find? (key, secondary) =
      if key = pair.1 ∧ secondary = pair.2 then none else plain.find? key secondary := by
  simp [find?, Prod.ext_iff]

end PlainStore

end OverlayStore
