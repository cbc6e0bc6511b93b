import OverlayStore.Proofs.Database.FloodLimits
import OverlayStore.Proofs.Database.Place

/-!
# The flood check

The limits are checked with the counts from before a record is put, while what they are meant to
bound are the counts afterwards. The two agree: a record is refused if it would leave too many
records at its address or in its network. There is one exception. A creator without an IPv4 form has
no address to be charged to, but is compared with the limits as if nothing were charged to it, and a
limit of zero turns away even that (`Database.refused_iff_overfull_or_unplaced`).
-/

namespace OverlayStore

namespace Record

variable {record : Record}

/-- A remote record is charged to where its creator comes from. -/
theorem charge_of_remote (mask : UInt32) (hremote : record.isLocal = false) :
    record.charge mask = record.creator.maskedIpv4 mask := by
  simp [charge, hremote]

/-- A remote record is charged nowhere if its creator has no IPv4 form. -/
theorem charge_eq_none_iff (mask : UInt32) (hremote : record.isLocal = false) :
    record.charge mask = none ↔ record.creator.address.ip.v4Form? = none := by
  simp [charge_of_remote mask hremote, Contact.maskedIpv4]

/-- The records charged to an address are the remote ones whose creators have it. -/
theorem charged_addressMask (word : UInt32) (records : List Record) :
    charged Contact.addressMask word records = records.countP fun other =>
      !other.isLocal && other.creator.address.ip.unmapped = .v4 word := by
  apply List.countP_congr
  intro other _
  rw [decide_eq_true_eq, charge_addressMask_iff]
  simp

/-- The records charged to a network are the remote ones whose creators are in it. -/
theorem charged_networkMask (word : UInt32) (records : List Record) :
    charged Contact.networkMask (word &&& Contact.networkMask) records =
      records.countP fun other => !other.isLocal &&
        (⟨.v4 word, 24⟩ : Net.Block).Contains other.creator.address.ip.unmapped := by
  apply List.countP_congr
  intro other _
  rw [decide_eq_true_eq, charge_networkMask_iff]
  simp

end Record

namespace Database

open Record

variable {db : Database} {limit : Option Nat} {mask : UInt32} {record : Record}

/-- Where a record replaces none from the same place, all that is charged to the place stays. -/
theorem charged_of_not_sameOrigin (h : db.WellFormed) {origin : UInt32}
    (hcharge : record.charge mask = some origin)
    (hother : record.sameOrigin mask (db.find? record.key record.secondary) = false) :
    charged mask origin db.records =
      charged mask origin (db.others record.key record.secondary) := by
  cases hfound : db.find? record.key record.secondary with
  | none => rw [h.others_eq_records hfound]
  | some previous =>
    rw [charged_perm (h.records_perm_cons_others hfound), charged_cons]
    have hmasked := ((charge_eq_some_iff mask origin record).mp hcharge).2
    -- if the replaced record were charged to the same place, the origins would be the same
    have hprevious : previous.charge mask ≠ some origin := by
      intro hsame
      simp [sameOrigin, hfound, hsame, hmasked] at hother
    rw [if_neg hprevious, Nat.add_zero]

/-- A limit that is respected so far refuses a remote record in two cases: if the record's place
would have too many records with it, and if the record has no place and the limit is zero. -/
theorem withinLimit_eq_false_iff (h : db.WellFormed) (hremote : record.isLocal = false)
    (hwithin : ChargedWithin limit mask db.records) :
    withinLimit limit mask
        ((record.charge mask).elim 0 fun origin => charged mask origin db.records)
        (db.find? record.key record.secondary) record = false ↔
      ∃ max, limit = some max ∧
        ((∃ origin, record.charge mask = some origin ∧
          max < charged mask origin (record :: db.others record.key record.secondary)) ∨
        (record.charge mask = none ∧ max = 0)) := by
  cases limit with
  | none => simp [withinLimit]
  | some max =>
    cases hcharge : record.charge mask with
    | none =>
      -- without a place there is no record from the same place
      have hmasked : record.creator.maskedIpv4 mask = none :=
        (charge_of_remote mask hremote).symm.trans hcharge
      have hother : record.sameOrigin mask (db.find? record.key record.secondary) = false := by
        unfold sameOrigin
        split <;> simp [hmasked]
      rw [withinLimit, hother, Bool.false_or, decide_eq_false_iff_not, Option.elim_none]
      simp
    | some origin =>
      have hleft : charged mask origin (record :: db.others record.key record.secondary) =
          charged mask origin (db.others record.key record.secondary) + 1 := by
        rw [charged_cons, if_pos hcharge]
      have hmax := hwithin max rfl origin
      rw [withinLimit, Bool.or_eq_false_iff, decide_eq_false_iff_not, Option.elim_some]
      simp only [Option.some.injEq, exists_eq_left', reduceCtorEq, false_and, or_false, hleft]
      cases hsame : record.sameOrigin mask (db.find? record.key record.secondary) with
      | true =>
        -- one record takes the place of another one, and there were not too many before
        have hbefore := charged_of_sameOrigin h hcharge hsame
        simp only [reduceCtorEq, false_and, false_iff]
        omega
      | false =>
        -- the record comes to those that are charged already
        have hbefore := charged_of_not_sameOrigin h hcharge hsame
        simp only [true_and]
        omega

/-- There are more remote records from the IPv4 form of an address, or from its /24 network, than
the settings allow. Without an IPv4 form there are none. -/
def OverfullAt (settings : Config.Storage) (ip : Net.Ip) (records : List Record) : Prop :=
  ∃ word, ip.unmapped = .v4 word ∧
    ((settings.limitPerAddress = true ∧ settings.maxPerAddress < records.countP fun record =>
      !record.isLocal && record.creator.address.ip.unmapped = .v4 word) ∨
    (settings.limitPerNetwork = true ∧ settings.maxPerNetwork < records.countP fun record =>
      !record.isLocal &&
        (⟨.v4 word, 24⟩ : Net.Block).Contains record.creator.address.ip.unmapped))

/-- One of the limits that the settings ask for is zero. -/
def AllowsNothing (settings : Config.Storage) : Prop :=
  (settings.limitPerAddress = true ∧ settings.maxPerAddress = 0) ∨
    (settings.limitPerNetwork = true ∧ settings.maxPerNetwork = 0)

instance (settings : Config.Storage) : Decidable (AllowsNothing settings) :=
  inferInstanceAs (Decidable ((_ ∧ _) ∨ (_ ∧ _)))

/-- The place of a remote record is overfull if one of the two counts that it is charged to is
beyond its limit. -/
theorem overfullAt_iff {settings : Config.Storage} (hremote : record.isLocal = false)
    (records : List Record) :
    OverfullAt settings record.creator.address.ip records ↔
      (settings.limitPerAddress = true ∧ ∃ origin,
        record.charge Contact.addressMask = some origin ∧
          settings.maxPerAddress < charged Contact.addressMask origin records) ∨
      (settings.limitPerNetwork = true ∧ ∃ origin,
        record.charge Contact.networkMask = some origin ∧
          settings.maxPerNetwork < charged Contact.networkMask origin records) := by
  unfold OverfullAt
  simp only [charge_networkMask, Option.map_eq_some_iff, charge_addressMask_iff, hremote, true_and]
  constructor
  · rintro ⟨word, hword, ⟨hlimit, hmax⟩ | ⟨hlimit, hmax⟩⟩
    · rw [← charged_addressMask] at hmax
      exact .inl ⟨hlimit, word, hword, hmax⟩
    · rw [← charged_networkMask] at hmax
      exact .inr ⟨hlimit, word &&& Contact.networkMask, ⟨word, hword, rfl⟩, hmax⟩
  · rintro (⟨hlimit, word, hword, hmax⟩ | ⟨hlimit, origin, ⟨word, hword, rfl⟩, hmax⟩)
    · rw [charged_addressMask] at hmax
      exact ⟨word, hword, .inl ⟨hlimit, hmax⟩⟩
    · rw [charged_networkMask] at hmax
      exact ⟨word, hword, .inr ⟨hlimit, hmax⟩⟩

/-- Without a policy and without validation of creators, a remote record is refused exactly if one
of the two limits refuses it. -/
theorem result_store_eq_false_iff (hpolicy : db.policy = none)
    (hvalidate : db.limits.validateCreator = false) (hremote : record.isLocal = false)
    (hvalue : record.value.isEmpty = false) :
    (db.store record).result = false ↔
      withinLimit db.limits.maxPerAddress Contact.addressMask (db.valuesPerAddress record)
        (db.find? record.key record.secondary) record = false ∨
      withinLimit db.limits.maxPerNetwork Contact.networkMask (db.valuesPerNetwork record)
        (db.find? record.key record.secondary) record = false := by
  rw [db.result_store hvalue]
  simp only [admits, withinLimits, hpolicy, hvalidate, hremote, Bool.and_true, Bool.false_or,
    Bool.false_and, Bool.not_false, Bool.true_or, Bool.true_and, Bool.and_eq_false_iff]

/-- Let the limits be any, let creators not be validated, and let no policy be installed at the end
of a history. Then a remote record with a value is refused in two cases only: if with it, in place
of the creator's earlier record under the key, there would be more records from its address or from
its network than allowed, and if its creator has no IPv4 form and one of the limits is zero. -/
theorem refused_iff_overfull_or_unplaced (settings : Config.Storage)
    (hvalidate : settings.validateCreator = false) (history : List Request) (record : Record)
    (hpolicy : ((Database.ofSettings settings).after history).policy = none)
    (hremote : record.isLocal = false) (hvalue : record.value.isEmpty = false) :
    let db := (Database.ofSettings settings).after history
    (db.store record).result = false ↔
      OverfullAt settings record.creator.address.ip
        (record :: db.others record.key record.secondary) ∨
      (record.creator.address.ip.v4Form? = none ∧ AllowsNothing settings) := by
  intro db
  have hfresh : (Database.ofSettings settings).WellFormed := WellFormed.fresh _ _ _
  have hdb : db.WellFormed := hfresh.after history
  have hlimits : db.limits = FloodLimits.ofSettings settings := limits_after _ history
  have hrespects : RespectsLimits (FloodLimits.ofSettings settings) db.records :=
    respectsLimits_after hfresh ⟨.nil _ _, .nil _ _⟩ history
  -- a limit is there if the settings ask for it
  have hlimit : ∀ (asked : Bool) (max : Nat) (p : Nat → Prop),
      (∃ m, (if asked = true then some max else none) = some m ∧ p m) ↔ asked = true ∧ p max := by
    intro asked max p
    cases asked <;> simp
  have hvalidated : db.limits.validateCreator = false := by
    rw [hlimits]
    exact hvalidate
  rw [result_store_eq_false_iff hpolicy hvalidated hremote hvalue, hdb.valuesPerAddress_eq,
    hdb.valuesPerNetwork_eq, hlimits, withinLimit_eq_false_iff hdb hremote hrespects.1,
    withinLimit_eq_false_iff hdb hremote hrespects.2, overfullAt_iff hremote, AllowsNothing]
  simp only [FloodLimits.ofSettings, hlimit, charge_eq_none_iff _ hremote]
  -- what is left is the distribution of the two cases over the two limits
  rw [and_or_left, and_or_left, or_or_or_comm]
  simp only [and_or_left, and_left_comm]

/-- One record is allowed for each address and two for each network. A creator who moves within a
full network is let in, and so is one who writes its own full address in mapped form. Who moves to a
full address is refused, also where a local record would be replaced, and a creator without an IPv4
form is not. -/
theorem refused_iff_overfull_or_unplaced_of_full_network :
    let settings : Config.Storage :=
      { validateCreator := false, limitPerAddress := true, maxPerAddress := 1
        limitPerNetwork := true, maxPerNetwork := 2 }
    let value : Value := ⟨.test, ⟨1, 0⟩, [118], by decide⟩
    let contact (id octet : UInt8) : Contact :=
      ⟨⟨List.replicate 20 id, by simp⟩, .ofOctets 82 1 2 octet 4000⟩
    let mapped : Contact :=
      { contact 1 1 with address := ⟨.v6 #v[0, 0, 0, 0, 0, 0xffff, 0x5201, 0x0201], 4000, 0⟩ }
    let plain : Contact :=
      { contact 4 1 with address := ⟨.v6 #v[0x2001, 0xdb8, 0, 0, 0, 0, 0, 1], 4000, 0⟩ }
    let history : List Request :=
      [.store (.direct (contact 1 1) .zero value 0), .store (.direct (contact 2 2) .zero value 0),
        .store (.own (contact 3 1) .zero value 0), .load .zero true 0]
    let db := (Database.ofSettings settings).after history
    let refused (creator : Contact) : Bool := !(db.store (.direct creator .zero value 1)).result
    let overfull (creator : Contact) : Prop :=
      let record := Record.direct creator .zero value 1
      OverfullAt settings creator.address.ip (record :: db.others record.key record.secondary)
    settings.validateCreator = false ∧ db.policy = none ∧ value.isEmpty = false ∧
      (refused (contact 2 7) = false ∧ ¬overfull (contact 2 7)) ∧
      (refused mapped = false ∧ ¬overfull mapped) ∧
      (refused (contact 2 1) = true ∧ overfull (contact 2 1)) ∧
      (refused (contact 3 1) = true ∧ overfull (contact 3 1)) ∧
      (refused plain = false ∧ ¬overfull plain) := by
  intro settings value contact mapped plain history db refused overfull
  have hvalue : value.isEmpty = false := rfl
  have hallows : ¬AllowsNothing settings := by decide
  -- no limit is zero, so the second case does not occur
  have hexact : ∀ creator, refused creator = true ↔ overfull creator := by
    intro creator
    have h := refused_iff_overfull_or_unplaced settings rfl history
      (.direct creator .zero value 1) rfl rfl hvalue
    simp only [hallows, and_false, or_false] at h
    show (!_) = true ↔ _
    rw [Bool.not_eq_true']
    exact h
  have hnot : ∀ creator, refused creator = false → refused creator = false ∧ ¬overfull creator :=
    fun creator hlet => ⟨hlet, fun hover => by simp [(hexact creator).mpr hover] at hlet⟩
  have hyes : ∀ creator, refused creator = true → refused creator = true ∧ overfull creator :=
    fun creator hrefused => ⟨hrefused, (hexact creator).mp hrefused⟩
  exact ⟨rfl, rfl, hvalue, hnot _ (by decide), hnot _ (by decide), hyes _ (by decide),
    hyes _ (by decide), hnot _ (by decide)⟩

/-- A limit of zero for each address refuses a creator without an IPv4 form, although there is no
address with too many records, for its record would be charged to none. -/
theorem unplaced_creator_is_refused :
    let settings : Config.Storage :=
      { validateCreator := false, limitPerAddress := true, maxPerAddress := 0
        limitPerNetwork := false }
    let value : Value := ⟨.test, ⟨1, 0⟩, [118], by decide⟩
    let record : Record :=
      .direct ⟨.ones, ⟨.v6 #v[0x2001, 0xdb8, 0, 0, 0, 0, 0, 1], 4000, 0⟩⟩ .zero value 0
    let db := (Database.ofSettings settings).after []
    settings.validateCreator = false ∧ db.policy = none ∧ record.isLocal = false ∧
      record.value.isEmpty = false ∧ record.creator.address.ip.v4Form? = none ∧
      (db.store record).result = false ∧
      ¬OverfullAt settings record.creator.address.ip
        (record :: db.others record.key record.secondary) := by
  intro settings value record db
  refine ⟨rfl, rfl, rfl, rfl, by decide, by decide, ?_⟩
  rintro ⟨word, hword, -⟩
  cases hword

end Database

end OverlayStore
