import OverlayStore.Proofs.Database.Intake
import OverlayStore.Proofs.Net.Block

/-!
# The validation of creators

A database that validates creators lets an indirect remote record in only if its creator has a port
and an address that is neither unspecified nor taken for private. For an IPv4 address this is what
makes it routable. IPv6 addresses are judged by their own bits, which overlooks two kinds of
unroutable addresses: those that map an unroutable IPv4 address, and the link-local ones
(`Net.Ip.IsOverlooked`). There are no other exceptions.
-/

namespace OverlayStore

/-! ## Overlooked addresses -/

namespace Net.Ip

/-- An unroutable address that is not recognised: an IPv6 address that maps an unroutable IPv4
address or is link-local. -/
def IsOverlooked (ip : Ip) : Prop :=
  (∃ groups word, ip = .v6 groups ∧ mapped? groups = some word ∧ (v4 word).IsUnroutable) ∨
    Block.linkLocal.Contains ip.unmapped

/-- An address that passes for routable is one, unless it is overlooked. -/
theorem isUnroutable_unmapped_iff {ip : Ip} (hspecified : ip.isUnspecified = false)
    (hpublic : ip.isPrivate = false) : ip.unmapped.IsUnroutable ↔ ip.IsOverlooked := by
  constructor
  · intro hunroutable
    cases ip with
    | v4 word =>
      rcases (isUnroutable_v4_iff word).mp hunroutable with h | h
      · exact absurd (hspecified.symm.trans h) Bool.false_ne_true
      · exact absurd (hpublic.symm.trans h) Bool.false_ne_true
    | v6 groups =>
      -- the two flags read the address as it is written, so a mapped one slips past them
      cases hmapped : mapped? groups with
      | some word =>
        have hunmapped := (unmapped_eq_v4_iff (v6 groups) word).mpr hmapped
        rw [hunmapped] at hunroutable
        exact .inl ⟨groups, word, rfl, hmapped, hunroutable⟩
      | none =>
        rw [unmapped_of_mapped?_eq_none hmapped] at hunroutable
        rcases (isUnroutable_v6_iff groups).mp hunroutable with h | h | h
        · exact absurd (hspecified.symm.trans h) Bool.false_ne_true
        · exact absurd (hpublic.symm.trans h) Bool.false_ne_true
        · refine .inr ?_
          rwa [unmapped_of_mapped?_eq_none hmapped]
  · rintro (⟨groups, word, rfl, hmapped, hunroutable⟩ | hlinkLocal)
    · rwa [(unmapped_eq_v4_iff (v6 groups) word).mpr hmapped]
    · exact ⟨Block.linkLocal, by simp [Block.unroutable], hlinkLocal⟩

/-- An overlooked address passes for routable. -/
theorem IsOverlooked.passes {ip : Ip} (h : ip.IsOverlooked) :
    ip.isUnspecified = false ∧ ip.isPrivate = false := by
  have hother : ∀ word, ¬ Block.linkLocal.Contains (v4 word) :=
    fun _ h => absurd h.1 (Nat.ne_of_lt (by decide : 32 < 128))
  rw [← Bool.not_eq_true, ← Bool.not_eq_true]
  rcases h with ⟨groups, word, rfl, hmapped, -⟩ | hlinkLocal
  · -- the leading bits of an address that maps another one are zero, but not all of its bits
    have hbounds := toNat_of_mapped? hmapped
    rw [isUnspecified_v6_iff, isPrivate_v6_iff]
    omega
  · cases ip with
    | v4 word => exact absurd hlinkLocal (hother word)
    | v6 groups =>
      cases hmapped : mapped? groups with
      | some word =>
        rw [(unmapped_eq_v4_iff (v6 groups) word).mpr hmapped] at hlinkLocal
        exact absurd hlinkLocal (hother word)
      | none =>
        -- the ten leading bits differ from those of all other blocks
        rw [unmapped_of_mapped?_eq_none hmapped, Block.linkLocal, ofEnds,
          contains_v6_iff] at hlinkLocal
        have hleading : (v6 groups).toNat / 2 ^ 118 = 0xfe80 / 2 ^ 6 := hlinkLocal
        rw [isUnspecified_v6_iff, isPrivate_v6_iff]
        omega

end Net.Ip

namespace Database

/-- What the validation of creators lets in. -/
theorem hasRoutableCreator_iff (record : Record) :
    record.hasRoutableCreator = true ↔
      record.creator.address.port ≠ 0 ∧ record.creator.address.ip.isUnspecified = false ∧
        record.creator.address.ip.isPrivate = false := by
  simp [Record.hasRoutableCreator, Contact.hasValidAddress, Contact.hasPrivateAddress, and_assoc]

/-- The creators of indirect remote records have been validated. -/
def Validated (records : List Record) : Prop :=
  ∀ record ∈ records, record.isLocal = false → record.isDirect = false →
    record.hasRoutableCreator = true

/-- An admitted record keeps the creators validated. -/
theorem validated_cons {db : Database} {record : Record}
    (hvalidate : db.limits.validateCreator = true) (hadmits : db.admits record = true)
    (hvalidated : Validated db.records) :
    Validated (record :: db.others record.key record.secondary) := by
  rw [Validated, List.forall_mem_cons]
  refine ⟨fun hremote hindirect => ?_, fun other hother => ?_⟩
  · have hwithin : db.withinLimits record = true := (Bool.and_eq_true_iff.mp hadmits).1
    simp only [withinLimits, hremote, hvalidate, hindirect, Bool.false_or,
      Bool.and_eq_true] at hwithin
    simpa using hwithin.1.1
  · exact hvalidated other (List.mem_of_mem_filter hother)

/-- Every history keeps the creators validated. -/
theorem validated_after {db : Database} (h : db.WellFormed)
    (hvalidate : db.limits.validateCreator = true) (hstart : Validated db.records)
    (history : List Request) : Validated (db.after history).records := by
  refine h.records_induction hstart ?_ ?_ history
  · exact fun hfewer hall record hmem => hall record (hfewer.subset hmem)
  · exact fun db' record _ hlimits hadmits hrecords =>
      validated_cons (hlimits ▸ hvalidate) hadmits hrecords

/-- A database that holds nothing, has no policy and bounds no numbers lets a record in whose
creator passes the validation. -/
theorem mem_records_store_of_hasRoutableCreator {limits : FloodLimits} {loadRule : LoadRule}
    (haddress : limits.maxPerAddress = none) (hnetwork : limits.maxPerNetwork = none)
    {record : Record} (hvalue : record.value.isEmpty = false)
    (hroutable : record.hasRoutableCreator = true) :
    record ∈ (({ limits, loadRule } : Database).after [.store record]).records := by
  have hfresh : ({ limits, loadRule } : Database).WellFormed :=
    WellFormed.fresh limits loadRule none
  have hadmits : ({ limits, loadRule } : Database).admits record = true := by
    simp [admits, withinLimits, withinLimit, haddress, hnetwork, hroutable]
  have hafter : ({ limits, loadRule } : Database).after [.store record] =
      ({ limits, loadRule } : Database).put record := by
    rw [after, List.foldl_cons, List.foldl_nil, serve, database_store, hvalue, hadmits]
    rfl
  rw [hafter]
  exact (hfresh.records_put hvalue).mem_iff.mpr List.mem_cons_self

/-- Where creators are validated, the creator of an indirect remote record that is kept has a port,
and its address is unroutable exactly if it is overlooked. All overlooked addresses get in: where no
numbers are bounded, a record from such a creator is stored. -/
theorem unroutable_creator_iff_isOverlooked (settings : Config.Storage)
    (hvalidate : settings.validateCreator = true) :
    (∀ history, ∀ record ∈ ((Database.ofSettings settings).after history).records,
      record.isLocal = false → record.isDirect = false →
        record.creator.address.port ≠ 0 ∧
        (record.creator.address.ip.unmapped.IsUnroutable ↔
          record.creator.address.ip.IsOverlooked)) ∧
    (settings.limitPerAddress = false → settings.limitPerNetwork = false →
      ∀ record : Record, record.value.isEmpty = false → record.creator.address.port ≠ 0 →
        record.creator.address.ip.IsOverlooked →
        ∃ history, record ∈ ((Database.ofSettings settings).after history).records) := by
  refine ⟨fun history record hmem hremote hindirect => ?_,
    fun haddress hnetwork record hvalue hport hoverlooked => ?_⟩
  · have hfresh : (Database.ofSettings settings).WellFormed := WellFormed.fresh _ _ _
    have hnone : Validated (Database.ofSettings settings).records := fun _ hmem => by cases hmem
    have hroutable := validated_after hfresh hvalidate hnone history record hmem hremote hindirect
    obtain ⟨hport, hspecified, hpublic⟩ := (hasRoutableCreator_iff record).mp hroutable
    exact ⟨hport, Net.Ip.isUnroutable_unmapped_iff hspecified hpublic⟩
  · have hroutable := (hasRoutableCreator_iff record).mpr ⟨hport, hoverlooked.passes⟩
    refine ⟨[.store record], mem_records_store_of_hasRoutableCreator ?_ ?_ hvalue hroutable⟩
    · simp [FloodLimits.ofSettings, haddress]
    · simp [FloodLimits.ofSettings, hnetwork]

/-- A routable creator's record is kept, and a creator whose address maps a loopback address gets
one in as well. -/
theorem unroutable_creator_iff_isOverlooked_of_two_creators :
    let settings : Config.Storage :=
      { validateCreator := true, limitPerAddress := false, limitPerNetwork := false }
    let value : Value := ⟨.test, ⟨1, 0⟩, [118], by decide⟩
    let routable : Contact := ⟨.ones, .ofOctets 82 1 2 3 4000⟩
    let loopback : Contact := ⟨.zero, ⟨.v6 #v[0, 0, 0, 0, 0, 0xffff, 0x7f00, 0x0001], 4000, 0⟩⟩
    let kept : Record := ⟨routable, loopback, .zero, value, 0, false⟩
    let other : Record := ⟨loopback, routable, .zero, value, 0, false⟩
    settings.validateCreator = true ∧
      kept ∈ ((Database.ofSettings settings).after [.store kept]).records ∧
      (routable.address.ip.unmapped.IsUnroutable ↔ routable.address.ip.IsOverlooked) ∧
      loopback.address.ip.IsOverlooked ∧
      ∃ history, other ∈ ((Database.ofSettings settings).after history).records := by
  intro settings value routable loopback kept other
  have hkept : kept ∈ ((Database.ofSettings settings).after [.store kept]).records := by decide
  have hoverlooked : loopback.address.ip.IsOverlooked := .inl ⟨_, _, rfl, rfl, by decide⟩
  obtain ⟨hstored, hlets⟩ := unroutable_creator_iff_isOverlooked settings rfl
  exact ⟨rfl, hkept, (hstored _ kept hkept rfl rfl).2, hoverlooked,
    hlets rfl rfl other rfl (by decide) hoverlooked⟩

/-- Although creators are validated, two records are kept that came through another node from
creators whom nobody outside can reach: one at a private address in mapped form, the other at a
link-local address. -/
theorem unroutable_creators_are_stored :
    let settings : Config.Storage := { validateCreator := true }
    let value : Value := ⟨.test, ⟨1, 0⟩, [118], by decide⟩
    let mapped : Contact := ⟨.ones, ⟨.v6 #v[0, 0, 0, 0, 0, 0xffff, 0x0a00, 0x0001], 4000, 0⟩⟩
    let linkLocal : Contact := ⟨.zero, ⟨.v6 #v[0xfe80, 0, 0, 0, 0, 0, 0, 1], 4000, 0⟩⟩
    let first : Record := ⟨mapped, linkLocal, .zero, value, 0, false⟩
    let second : Record := ⟨linkLocal, mapped, .zero, value, 0, false⟩
    let db := (Database.ofSettings settings).after [.store first, .store second]
    settings.validateCreator = true ∧
      ∀ record ∈ [first, second], record ∈ db.records ∧ record.isLocal = false ∧
        record.isDirect = false ∧ record.creator.address.ip.unmapped.IsUnroutable := by
  decide +kernel

end Database

end OverlayStore
