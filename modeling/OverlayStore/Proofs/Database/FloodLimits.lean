import OverlayStore.Proofs.Database.Intake
import OverlayStore.Proofs.Net.Block

/-!
# The flood limits

A limit bounds the number of remote records that may be charged to one place, an IPv4 address or a
/24 network. It is not asked where a record replaces a remote one from the same place, for then the
number stays; in all other cases there is room for one record more. So, whatever policies are
installed, no place ever has more remote records than the limit allows.
-/

namespace OverlayStore

/-! ## Places -/

namespace Net

/-- An address belongs to an IPv4 block if the mask leaves the same of its IPv4 form. -/
theorem Block.contains_unmapped_iff {start mask : UInt32} {length : Nat}
    (hmask : mask.toNat = 2 ^ 32 - 2 ^ (32 - length)) (ip : Ip) :
    (⟨.v4 start, length⟩ : Block).Contains ip.unmapped ↔
      ip.v4Form?.map (· &&& mask) = some (start &&& mask) := by
  cases hform : ip.v4Form? with
  | some word =>
    rw [(Ip.unmapped_eq_v4_iff ip word).mpr hform, Block.contains_v4_iff hmask]
    simp
  | none =>
    -- without an IPv4 form the address is of the other family
    cases ip with
    | v4 word => cases hform
    | v6 groups =>
      rw [Ip.unmapped, hform]
      exact ⟨fun h => absurd h.1 (Nat.ne_of_gt (by decide : 32 < 128)), fun h => by cases h⟩

end Net

namespace Record

/-- A record is charged to the IPv4 form of its creator's address. -/
theorem charge_addressMask_iff (record : Record) (word : UInt32) :
    record.charge Contact.addressMask = some word ↔
      record.isLocal = false ∧ record.creator.address.ip.unmapped = .v4 word := by
  have hmask : ∀ word : UInt32, word &&& Contact.addressMask = word := fun word =>
    UInt32.and_neg_one
  rw [charge_eq_some_iff, Contact.maskedIpv4, Net.Ip.unmapped_eq_v4_iff]
  simp [hmask]

/-- A record is charged to the /24 network in which the IPv4 form of its creator's address is. -/
theorem charge_networkMask_iff (record : Record) (start : UInt32) :
    record.charge Contact.networkMask = some (start &&& Contact.networkMask) ↔
      record.isLocal = false ∧
        (⟨.v4 start, 24⟩ : Net.Block).Contains record.creator.address.ip.unmapped := by
  have hmask : Contact.networkMask.toNat = 2 ^ 32 - 2 ^ (32 - 24) := rfl
  rw [charge_eq_some_iff, Contact.maskedIpv4, Net.Block.contains_unmapped_iff hmask]

/-! ## Bounded charges -/

/-- No place has more records charged to it than a limit allows, if there is one. -/
def ChargedWithin (limit : Option Nat) (mask : UInt32) (records : List Record) : Prop :=
  ∀ max, limit = some max → ∀ origin, charged mask origin records ≤ max

namespace ChargedWithin

variable {limit : Option Nat} {mask : UInt32} {records : List Record}

theorem nil (limit : Option Nat) (mask : UInt32) : ChargedWithin limit mask [] :=
  fun max _ _ => Nat.zero_le max

/-- Fewer records are charged no more. -/
theorem subperm {some : List Record} (h : ChargedWithin limit mask records)
    (hsome : some.Subperm records) : ChargedWithin limit mask some := fun max hmax origin =>
  (hsome.countP_le _).trans (h max hmax origin)

end ChargedWithin

end Record

namespace Database

open Record

variable {db : Database} {limit : Option Nat} {mask : UInt32} {record : Record}

theorem charged_others_le (db : Database) (mask origin : UInt32) (key secondary : Key) :
    charged mask origin (db.others key secondary) ≤ charged mask origin db.records :=
  List.filter_sublist.countP_le

/-- Where a record replaces a remote one from the same place, that one is among those charged to
the place. -/
theorem charged_of_sameOrigin (h : db.WellFormed) {origin : UInt32}
    (hcharge : record.charge mask = some origin)
    (hsame : record.sameOrigin mask (db.find? record.key record.secondary) = true) :
    charged mask origin db.records =
      charged mask origin (db.others record.key record.secondary) + 1 := by
  unfold sameOrigin at hsame
  cases hfound : db.find? record.key record.secondary with
  | none => simp [hfound] at hsame
  | some previous =>
    rw [charged_perm (h.records_perm_cons_others hfound), charged_cons, if_pos]
    rw [hfound, Option.bind_some] at hsame
    cases hprevious : previous.charge mask with
    | none => simp [hprevious] at hsame
    | some place =>
      -- both places are the masked address of the record's creator
      have hplace : record.creator.maskedIpv4 mask = some place := by simpa [hprevious] using hsame
      rw [← hplace, ((charge_eq_some_iff mask origin record).mp hcharge).2]

/-- A record that a limit lets in takes no more room than there is. -/
theorem chargedWithin_cons (h : db.WellFormed) (hwithin : ChargedWithin limit mask db.records)
    (hroom : record.isLocal = true ∨
      withinLimit limit mask
        ((record.charge mask).elim 0 fun origin => charged mask origin db.records)
        (db.find? record.key record.secondary) record = true) :
    ChargedWithin limit mask (record :: db.others record.key record.secondary) := by
  rintro max rfl origin
  have hothers := charged_others_le db mask origin record.key record.secondary
  have hrecords := hwithin max rfl origin
  rw [charged_cons]
  by_cases hcharge : record.charge mask = some origin
  · have hremote := ((charge_eq_some_iff mask origin record).mp hcharge).1
    rw [if_pos hcharge]
    rw [hcharge, Option.elim_some, withinLimit, Bool.or_eq_true, decide_eq_true_eq] at hroom
    rcases hroom with hlocal | hsame | hlt
    · rw [hremote] at hlocal
      cases hlocal
    · -- the replaced record makes room
      rw [← charged_of_sameOrigin h hcharge hsame]
      exact hrecords
    · omega
  · -- the record is charged elsewhere or not at all
    rw [if_neg hcharge, Nat.add_zero]
    exact hothers.trans hrecords

/-- Every place has at most as many records as the limits of a database allow. -/
def RespectsLimits (limits : FloodLimits) (records : List Record) : Prop :=
  ChargedWithin limits.maxPerAddress Contact.addressMask records ∧
    ChargedWithin limits.maxPerNetwork Contact.networkMask records

/-- An admitted record keeps both limits respected. -/
theorem respectsLimits_cons (h : db.WellFormed) (hadmits : db.admits record = true)
    (hrespects : RespectsLimits db.limits db.records) :
    RespectsLimits db.limits (record :: db.others record.key record.secondary) := by
  have hwithin : db.withinLimits record = true := (Bool.and_eq_true_iff.mp hadmits).1
  rw [withinLimits, Bool.or_eq_true, Bool.and_eq_true, Bool.and_eq_true, h.valuesPerAddress_eq,
    h.valuesPerNetwork_eq] at hwithin
  exact ⟨chargedWithin_cons h hrespects.1 (hwithin.imp id fun hall => hall.1.2),
    chargedWithin_cons h hrespects.2 (hwithin.imp id fun hall => hall.2)⟩

/-- The limits stay respected, whatever requests come. -/
theorem respectsLimits_after (h : db.WellFormed) (hstart : RespectsLimits db.limits db.records)
    (history : List Request) : RespectsLimits db.limits (db.after history).records := by
  refine h.records_induction hstart ?_ ?_ history
  · exact fun hfewer hall => ⟨hall.1.subperm hfewer, hall.2.subperm hfewer⟩
  · intro db' record hdb hlimits hadmits hrecords
    rw [← hlimits] at hrecords ⊢
    exact respectsLimits_cons hdb hadmits hrecords

/-- A database whose settings limit the number of remote records from an address never holds more
than that from any address, plain or mapped, whatever requests come and whatever policies are
installed meanwhile. The same holds of the limit for /24 networks. -/
theorem remote_records_le_max (settings : Config.Storage) (history : List Request) :
    let db := (Database.ofSettings settings).after history
    (settings.limitPerAddress = true → ∀ word : UInt32,
      (db.records.countP fun record => !record.isLocal &&
        record.creator.address.ip.unmapped = .v4 word) ≤ settings.maxPerAddress) ∧
    (settings.limitPerNetwork = true → ∀ start : UInt32,
      (db.records.countP fun record => !record.isLocal &&
        (⟨.v4 start, 24⟩ : Net.Block).Contains record.creator.address.ip.unmapped) ≤
          settings.maxPerNetwork) := by
  intro db
  have hfresh : (Database.ofSettings settings).WellFormed := WellFormed.fresh _ _ _
  have hrespects : RespectsLimits (FloodLimits.ofSettings settings) db.records :=
    respectsLimits_after hfresh ⟨.nil _ _, .nil _ _⟩ history
  refine ⟨fun hlimit word => ?_, fun hlimit start => ?_⟩
  · have hmax := hrespects.1 settings.maxPerAddress (by simp [FloodLimits.ofSettings, hlimit]) word
    refine le_of_eq_of_le (List.countP_congr fun record _ => ?_) hmax
    rw [decide_eq_true_eq, charge_addressMask_iff]
    simp
  · have hmax := hrespects.2 settings.maxPerNetwork (by simp [FloodLimits.ofSettings, hlimit])
      (start &&& Contact.networkMask)
    refine le_of_eq_of_le (List.countP_congr fun record _ => ?_) hmax
    rw [decide_eq_true_eq, charge_networkMask_iff]
    simp

/-- One record for each address and two for each network are allowed. A second creator writes the
address of the first one in mapped form and is refused, and a creator from the same network who
moves to that address is refused too. -/
theorem remote_records_le_max_of_moving_creator :
    let settings : Config.Storage :=
      { limitPerAddress := true, maxPerAddress := 1, limitPerNetwork := true, maxPerNetwork := 2 }
    let value : Value := ⟨.test, ⟨1, 0⟩, [118], by decide⟩
    let mapped : Net.Address := ⟨.v6 #v[0, 0, 0, 0, 0, 0xffff, 0x5201, 0x0203], 4000, 0⟩
    let history : List Request :=
      [.store (.own ⟨.ones, .ofOctets 82 1 2 3 4000⟩ .ones value 0),
        .store (.direct ⟨.zero, .ofOctets 82 1 2 3 4000⟩ .zero value 0),
        .store (.direct ⟨.ones, .ofOctets 82 1 2 4 4000⟩ .zero value 0)]
    let db := (Database.ofSettings settings).after history
    let fromAddress (record : Record) : Bool := !record.isLocal &&
      record.creator.address.ip.unmapped = .ofOctets 82 1 2 3
    settings.limitPerAddress = true ∧ (db.records.countP fromAddress = 1) ∧
      (db.store (.direct ⟨.ones, mapped⟩ .ones value 1)).result = false ∧
      (db.store (.direct ⟨.ones, .ofOctets 82 1 2 3 4000⟩ .zero value 1)).result = false ∧
      db.records.countP fromAddress ≤ settings.maxPerAddress := by
  intro settings value mapped history db fromAddress
  refine ⟨rfl, by decide, by decide, by decide, ?_⟩
  exact (remote_records_le_max settings history).1 rfl _

end Database

end OverlayStore
