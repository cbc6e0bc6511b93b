import OverlayStore.Expiry
import OverlayStore.Proofs.Routing

/-!
# How lifetimes depend on distance

A node that knows some contacts holds the records of a key for the whole span unless as many of
these contacts as the replication asks for lie nearer to the key than the node does. Only then does
the span shrink, by the buckets between the last of the closest contacts and the node. Both the
number of nearer contacts and the bucket of the node grow with its distance, so a node that lies
farther from the key never holds its records for longer (`Lifetime.span_antitone`).
-/

namespace OverlayStore

namespace Contact

variable {key : Key} {contacts others : List Contact} {a b contact : Contact} {rank rank' : Nat}

/-- How many contacts lie nearer to a key than a contact does. -/
def nearerThan (contact : Contact) (key : Key) (contacts : List Contact) : Nat :=
  contacts.countP fun other => other.distanceTo key < contact.distanceTo key

/-- A contact has a rank among contacts by their distance from a key: not as many as the rank lie
nearer, but as many lie no farther, the contact itself included. The contact of rank one is the
closest. -/
structure HasRank (key : Key) (contacts : List Contact) (rank : Nat) (contact : Contact) :
    Prop where
  /-- This is one of the contacts. -/
  mem : contact ∈ contacts
  /-- Fewer contacts lie nearer. -/
  nearer_lt : contact.nearerThan key contacts < rank
  /-- There are enough contacts that do not lie farther. -/
  rank_le : rank ≤ contacts.countP fun other => other.distanceTo key ≤ contact.distanceTo key

/-- From farther away, no fewer contacts are nearer. -/
theorem nearerThan_mono (h : a.distanceTo key ≤ b.distanceTo key) (contacts : List Contact) :
    a.nearerThan key contacts ≤ b.nearerThan key contacts := by
  refine List.countP_mono_left fun other _ hother => ?_
  rw [decide_eq_true_eq] at hother ⊢
  omega

theorem nearerThan_perm (contact : Contact) (hperm : contacts.Perm others) :
    contact.nearerThan key contacts = contact.nearerThan key others :=
  hperm.countP_eq _

namespace HasRank

theorem perm (h : HasRank key contacts rank contact) (hperm : contacts.Perm others) :
    HasRank key others rank contact where
  mem := hperm.mem_iff.mp h.mem
  nearer_lt := contact.nearerThan_perm hperm ▸ h.nearer_lt
  rank_le := hperm.countP_eq (fun other => decide (other.distanceTo key ≤ _)) ▸ h.rank_le

/-- The order of ranks is the order of distances. -/
theorem distanceTo_le (ha : HasRank key contacts rank a) (hb : HasRank key contacts rank' b)
    (hle : rank ≤ rank') : a.distanceTo key ≤ b.distanceTo key := by
  by_contra hlt
  -- all that do not lie farther than the one would lie nearer than the other
  have hcount : (contacts.countP fun other => other.distanceTo key ≤ b.distanceTo key) ≤
      a.nearerThan key contacts := by
    refine List.countP_mono_left fun other _ hother => ?_
    rw [decide_eq_true_eq] at hother ⊢
    omega
  have hnearer := ha.nearer_lt
  have hrank := hb.rank_le
  omega

/-- Where as many contacts as the rank lie nearer than a node, the contact of this rank does. -/
theorem distanceTo_lt (h : HasRank key contacts rank contact) {node : Contact}
    (hfar : rank ≤ node.nearerThan key contacts) :
    contact.distanceTo key < node.distanceTo key := by
  by_contra hle
  have hmono := nearerThan_mono (Nat.le_of_not_lt hle) contacts
  have hnearer := h.nearer_lt
  omega

/-- A contact keeps its rank when one that lies farther is left out. -/
theorem of_cons {node : Contact} (h : HasRank key (node :: contacts) rank contact)
    (hfar : contact.distanceTo key < node.distanceTo key) :
    HasRank key contacts rank contact where
  mem := by
    rcases List.mem_cons.mp h.mem with rfl | hmem
    · exact absurd hfar (Nat.lt_irrefl _)
    · exact hmem
  nearer_lt := by
    have hnearer := h.nearer_lt
    rwa [nearerThan, List.countP_cons_of_neg (by simp; omega)] at hnearer
  rank_le := by
    have hrank := h.rank_le
    rwa [List.countP_cons_of_neg (by simp; omega)] at hrank

/-- In a sorted list the rank of a contact is its position. -/
theorem of_pairwise {front rest : List Contact}
    (hsorted : (front ++ contact :: rest).Pairwise fun a b => a.distanceTo key ≤ b.distanceTo key) :
    HasRank key (front ++ contact :: rest) (front.length + 1) contact := by
  obtain ⟨-, hrest, hbetween⟩ := List.pairwise_append.mp hsorted
  constructor
  · exact List.mem_append_right _ List.mem_cons_self
  · -- neither the contact nor anything after it lies nearer
    have hnone : (contact :: rest).countP
        (fun other => other.distanceTo key < contact.distanceTo key) = 0 := by
      refine List.countP_eq_zero.mpr fun other hmem => ?_
      rw [decide_eq_true_eq, Nat.not_lt]
      rcases List.mem_cons.mp hmem with rfl | hlater
      · exact Nat.le_refl _
      · exact List.rel_of_pairwise_cons hrest hlater
    rw [nearerThan, List.countP_append, hnone]
    exact Nat.lt_succ_of_le List.countP_le_length
  · -- all before it do not lie farther
    have hall : front.countP (fun other => other.distanceTo key ≤ contact.distanceTo key) =
        front.length := by
      refine List.countP_eq_length.mpr fun other hmem => decide_eq_true ?_
      exact hbetween other hmem contact List.mem_cons_self
    rw [List.countP_append, hall, List.countP_cons_of_pos (by simp)]
    omega

end HasRank

end Contact

namespace Routing

variable {node contact : Contact} {contacts : List Contact} {key : Key} {count : Nat}

/-- A selection has as many contacts as asked for, or all if there are not so many. -/
theorem length_select_ofContacts (node : Contact) (contacts : List Contact) (key : Key)
    (count : Nat) : ((ofContacts node contacts).select key count).length =
      min count (node :: contacts).length := by
  rw [← (Contact.byDistance_perm key (node :: contacts)).length_eq]
  exact List.length_take

/-- A node counts among the closest if fewer contacts lie nearer. -/
theorem id_mem_select_iff :
    node.id ∈ ((ofContacts node contacts).select key count).map Contact.id ↔
      node.nearerThan key contacts < count := by
  have hperm := Contact.byDistance_perm key (node :: contacts)
  have hsorted := Contact.pairwise_byDistance key (node :: contacts)
  -- the node itself is not nearer than itself
  have hcount : node.nearerThan key contacts =
      node.nearerThan key (Contact.byDistance key (node :: contacts)) := by
    rw [node.nearerThan_perm hperm, Contact.nearerThan, Contact.nearerThan,
      List.countP_cons_of_neg (by simp)]
  change node.id ∈ ((Contact.byDistance key (node :: contacts)).take count).map Contact.id ↔ _
  rw [hcount]
  generalize Contact.byDistance key (node :: contacts) = sorted at hperm hsorted ⊢
  constructor
  · intro hmem
    obtain ⟨contact, hcontact, hid⟩ := List.mem_map.mp hmem
    have hsame : contact.distanceTo key = node.distanceTo key := Contact.distanceTo_inj.mpr hid
    -- what comes after the first ones does not lie nearer, and one of these is the node
    rw [← List.take_append_drop count sorted] at hsorted ⊢
    have hdrop : (sorted.drop count).countP
        (fun other => other.distanceTo key < node.distanceTo key) = 0 := by
      refine List.countP_eq_zero.mpr fun other hother => ?_
      have hle := (List.pairwise_append.mp hsorted).2.2 contact hcontact other hother
      simp only [decide_eq_true_eq]
      omega
    have hlt : (sorted.take count).countP
        (fun other => other.distanceTo key < node.distanceTo key) < (sorted.take count).length := by
      refine Nat.lt_of_le_of_ne List.countP_le_length fun hall => ?_
      have hnearer := List.countP_eq_length.mp hall contact hcontact
      simp [hsame] at hnearer
    rw [Contact.nearerThan, List.countP_append, hdrop]
    exact Nat.lt_of_lt_of_le hlt (List.length_take_le _ _)
  · intro hlt
    by_contra hnot
    have hnode : node ∈ sorted := hperm.mem_iff.mpr List.mem_cons_self
    have hafter : node ∉ sorted.take count := fun hmem =>
      hnot (List.mem_map.mpr ⟨node, hmem, rfl⟩)
    -- then all the first ones lie nearer, and there are as many as asked for
    have hall : (sorted.take count).countP
        (fun other => other.distanceTo key < node.distanceTo key) = (sorted.take count).length := by
      refine List.countP_eq_length.mpr fun other hother => decide_eq_true ?_
      have hle : other.distanceTo key ≤ node.distanceTo key :=
        rel_of_mem_take (r := fun a b => a.distanceTo key ≤ b.distanceTo key) hsorted hother hnode
          hafter
      refine Nat.lt_of_le_of_ne hle fun hsame => ?_
      exact hnot (List.mem_map.mpr ⟨other, hother, Contact.distanceTo_inj.mp hsame⟩)
    have hlength : (sorted.take count).length = count := by
      refine List.length_take_of_le ?_
      by_contra hshort
      exact hafter (by rwa [List.take_of_length_le (by omega)])
    have hle := (List.take_sublist count sorted).countP_le
      (p := fun other => decide (other.distanceTo key < node.distanceTo key))
    rw [hall, hlength] at hle
    exact absurd hlt (Nat.not_lt.mpr hle)

/-- The last of the closest contacts is the one whose rank is their number. -/
theorem exists_getLast?_select (key : Key) (hpos : 1 ≤ count)
    (hcount : count ≤ (node :: contacts).length) :
    ∃ furthest, ((ofContacts node contacts).select key count).getLast? = some furthest ∧
      Contact.HasRank key (node :: contacts) count furthest := by
  have hperm := Contact.byDistance_perm key (node :: contacts)
  have hsorted := Contact.pairwise_byDistance key (node :: contacts)
  change ∃ furthest, ((Contact.byDistance key (node :: contacts)).take count).getLast? = _ ∧ _
  have hlength : ((Contact.byDistance key (node :: contacts)).take count).length = count :=
    List.length_take_of_le (hperm.length_eq ▸ hcount)
  rw [← List.take_append_drop count (Contact.byDistance key (node :: contacts))] at hsorted hperm
  -- the last of those taken has the others before it and the rest behind it
  rcases List.eq_nil_or_concat ((Contact.byDistance key (node :: contacts)).take count) with
    hnil | ⟨front, furthest, hconcat⟩
  · rw [hnil, List.length_nil] at hlength
    omega
  · rw [hconcat, List.concat_append] at hsorted hperm
    rw [hconcat, List.length_concat] at hlength
    refine ⟨furthest, by simp [hconcat], ?_⟩
    exact hlength ▸ (Contact.HasRank.of_pairwise hsorted).perm hperm

end Routing

namespace Lifetime

variable {lifetime : Lifetime} {routing : Routing} {node a b : Contact}
  {contacts others : List Contact} {key : Key}

/-- The whole span is for nodes that know few contacts and for those among the closest. -/
theorem span_of_near
    (h : routing.node.id ∈ (routing.select key lifetime.replication).map Contact.id ∨
      (routing.select key lifetime.replication).length < lifetime.replication) :
    lifetime.span routing key = lifetime.expiration := by
  refine if_pos ?_
  rw [Bool.or_eq_true, decide_eq_true_eq, List.any_eq_true]
  refine h.symm.imp_right fun hmem => ?_
  obtain ⟨contact, hcontact, hid⟩ := List.mem_map.mp hmem
  exact ⟨contact, hcontact, decide_eq_true hid⟩

/-- All other nodes halve the span by the buckets between the last of the closest and themselves. -/
theorem span_of_far {furthest : Contact}
    (hself : routing.node.id ∉ (routing.select key lifetime.replication).map Contact.id)
    (hfull : lifetime.replication ≤ (routing.select key lifetime.replication).length)
    (hlast : (routing.select key lifetime.replication).getLast? = some furthest) :
    lifetime.span routing key = lifetime.expiration / 2 ^ halvings routing.node furthest key := by
  have hnone : (routing.select key lifetime.replication).any
      (fun contact => contact.id = routing.node.id) = false := by
    refine List.any_eq_false.mpr fun contact hmem hid => hself ?_
    exact List.mem_map.mpr ⟨contact, hmem, of_decide_eq_true hid⟩
  rw [span, hnone, decide_eq_false (Nat.not_lt.mpr hfull), hlast]
  rfl

/-- A node among the closest keeps a record for the full time. -/
theorem span_of_nearerThan_lt (lifetime : Lifetime)
    (h : node.nearerThan key contacts < lifetime.replication) :
    lifetime.span (.ofContacts node contacts) key = lifetime.expiration :=
  span_of_near (.inl (Routing.id_mem_select_iff.mpr h))

/-- Where as many contacts as the replication asks for lie nearer, the last of the closest is one of
these contacts, and the node halves the span by the buckets that lie between. -/
theorem exists_furthest (lifetime : Lifetime) (hpos : 1 ≤ lifetime.replication)
    (hfar : lifetime.replication ≤ node.nearerThan key contacts) :
    ∃ furthest,
      ((Routing.ofContacts node contacts).select key lifetime.replication).getLast? =
        some furthest ∧
      Contact.HasRank key contacts lifetime.replication furthest ∧
      lifetime.span (.ofContacts node contacts) key =
        lifetime.expiration / 2 ^ halvings node furthest key := by
  have hcount : node.nearerThan key contacts ≤ contacts.length := List.countP_le_length
  have hlength : lifetime.replication ≤ (node :: contacts).length :=
    Nat.le_succ_of_le (Nat.le_trans hfar hcount)
  obtain ⟨furthest, hlast, hrank⟩ := Routing.exists_getLast?_select key hpos hlength
  -- it lies nearer than the node, and so is one of the others
  have hlt : furthest.distanceTo key < node.distanceTo key := by
    refine hrank.distanceTo_lt (Nat.le_trans hfar ?_)
    exact (List.sublist_cons_self node contacts).countP_le
  refine ⟨furthest, hlast, hrank.of_cons hlt, span_of_far ?_ ?_ hlast⟩
  · exact fun hmem => Nat.not_lt.mpr hfar (Routing.id_mem_select_iff.mp hmem)
  · rw [Routing.length_select_ofContacts]
    exact Nat.le_min.mpr ⟨Nat.le_refl _, hlength⟩

/-- Nearer nodes, and nodes that count more contacts among the closest, hold records no shorter. -/
theorem span_le_span (hperm : contacts.Perm others) (expiration : Duration) {count count' : Nat}
    (hpos : 1 ≤ count) (hcount : count ≤ count') (hfar : a.distanceTo key ≤ b.distanceTo key) :
    span ⟨count, expiration⟩ (.ofContacts b others) key ≤
      span ⟨count', expiration⟩ (.ofContacts a contacts) key := by
  by_cases hnear : a.nearerThan key contacts < count'
  · rw [span_of_nearerThan_lt ⟨count', expiration⟩ hnear]
    exact span_le _ _ _
  · -- then more contacts than asked for lie nearer than either node
    have ha : count' ≤ a.nearerThan key contacts := Nat.le_of_not_lt hnear
    have hb : count ≤ b.nearerThan key others := by
      have hmono := Contact.nearerThan_mono hfar contacts
      rw [b.nearerThan_perm hperm] at hmono
      omega
    obtain ⟨last, -, hlast, hspan⟩ := exists_furthest ⟨count', expiration⟩
      (Nat.le_trans hpos hcount) ha
    obtain ⟨last', -, hlast', hspan'⟩ := exists_furthest ⟨count, expiration⟩ hpos hb
    have hbuckets := Contact.bucketIndex_mono ((hlast'.perm hperm.symm).distanceTo_le hlast hcount)
    have hnodes := Contact.bucketIndex_mono hfar
    have hhalvings : halvings a last key ≤ halvings b last' key := by
      unfold halvings
      omega
    rw [hspan, hspan']
    exact Nat.div_le_div_left (Nat.pow_le_pow_right Nat.two_pos hhalvings) (Nat.two_pow_pos _)

/-- A node that lies farther from a key than another one never holds its records for longer, with
the same other contacts in whatever order, and to count more contacts among the closest never
shortens the span. A node is among the closest if not as many contacts as are counted lie nearer.
Then, and where fewer contacts are known than are counted, the node itself included, the span is the
whole one. Otherwise the last of the closest contacts is the one of that rank among the others, it
is in no higher bucket than the node, and the span is halved for every bucket between the two, eight
times at most. -/
theorem span_antitone (key : Key) (expiration : Duration) {contacts others : List Contact}
    (hperm : contacts.Perm others) :
    let span (node : Contact) (contacts : List Contact) (count : Nat) : Duration :=
      Lifetime.span ⟨count, expiration⟩ (.ofContacts node contacts) key
    let closest (node : Contact) (count : Nat) : List Contact :=
      (Routing.ofContacts node contacts).select key count
    (∀ a b count, 1 ≤ count → Contact.notFarther key a b = true →
      span b others count ≤ span a contacts count) ∧
    (∀ node count count', 1 ≤ count → count ≤ count' →
      span node contacts count ≤ span node others count') ∧
    ∀ node count, 1 ≤ count →
      (node.id ∈ (closest node count).map Contact.id ↔ node.nearerThan key contacts < count) ∧
      (node.id ∈ (closest node count).map Contact.id ∨ (node :: contacts).length < count →
        span node contacts count = expiration) ∧
      (node.id ∉ (closest node count).map Contact.id → count ≤ (node :: contacts).length →
        ∃ furthest, (closest node count).getLast? = some furthest ∧
          Contact.HasRank key contacts count furthest ∧
          furthest.id.bucketIndex key ≤ node.id.bucketIndex key ∧
          span node contacts count =
            expiration / 2 ^ min 8 (node.id.bucketIndex key - furthest.id.bucketIndex key)) ∧
      expiration / 256 ≤ span node contacts count ∧ span node contacts count ≤ expiration := by
  intro span closest
  refine ⟨fun a b count hpos hfar => ?_, fun node count count' hpos hle => ?_,
    fun node count hpos => ?_⟩
  · exact span_le_span hperm expiration hpos (Nat.le_refl _) (Contact.notFarther_iff.mp hfar)
  · exact span_le_span hperm.symm expiration hpos hle (Nat.le_refl _)
  · refine ⟨Routing.id_mem_select_iff, fun hnear => ?_, fun hself hknown => ?_, ?_, span_le _ _ _⟩
    · refine span_of_near (hnear.imp_right fun hfew => ?_)
      rw [Routing.length_select_ofContacts]
      exact Nat.lt_of_le_of_lt (Nat.min_le_right _ _) hfew
    · have hfar := Nat.le_of_not_lt (mt Routing.id_mem_select_iff.mpr hself)
      obtain ⟨furthest, hlast, hrank, hspan⟩ :=
        exists_furthest ⟨count, expiration⟩ hpos hfar
      have hnearer := Nat.le_of_lt (hrank.distanceTo_lt hfar)
      exact ⟨furthest, hlast, hrank, Contact.bucketIndex_mono hnearer, hspan⟩
    · by_cases hnear : node.nearerThan key contacts < count
      · have hwhole : span node contacts count = expiration := span_of_nearerThan_lt _ hnear
        rw [hwhole]
        exact Nat.div_le_self _ _
      · obtain ⟨furthest, -, -, hspan⟩ :=
          exists_furthest ⟨count, expiration⟩ hpos (Nat.le_of_not_lt hnear)
        -- eight halvings divide by 256
        have hpow : 2 ^ halvings node furthest key ≤ 2 ^ 8 :=
          Nat.pow_le_pow_right Nat.two_pos (Nat.min_le_left _ _)
        calc expiration / 256 ≤ expiration / 2 ^ halvings node furthest key :=
              Nat.div_le_div_left hpow (Nat.two_pow_pos _)
          _ = span node contacts count := hspan.symm

/-- Two contacts lie nearer to the key than either node. The last of the two is six buckets below
the farther node, and so divides its span by 64. -/
theorem span_antitone_of_two_contacts :
    let contact (byte : UInt8) : Contact :=
      ⟨⟨byte :: List.replicate 19 0, by simp⟩, .ofOctets 82 1 2 3 4000⟩
    let span (node : Contact) (contacts : List Contact) (count : Nat) : Duration :=
      Lifetime.span ⟨count, 1024⟩ (.ofContacts node contacts) .zero
    span (contact 0x80) [contact 2, contact 1] 2 = 16 ∧
      span (contact 0x80) [contact 2, contact 1] 2 ≤ span (contact 7) [contact 1, contact 2] 2 ∧
      span (contact 0x80) [contact 1, contact 2] 2 ≤ span (contact 0x80) [contact 2, contact 1] 3 ∧
      span (contact 0x80) [contact 1, contact 2] 3 = 1024 := by
  intro contact span
  have hswap : [contact 1, contact 2].Perm [contact 2, contact 1] := .swap _ _ _
  obtain ⟨hfarther, hmore, -⟩ := span_antitone .zero 1024 hswap
  obtain ⟨-, -, hspan⟩ := span_antitone .zero 1024 hswap.symm
  refine ⟨?_, hfarther (contact 7) (contact 0x80) 2 (by decide) (by decide),
    hmore (contact 0x80) 2 3 (by decide) (by decide), ?_⟩
  · obtain ⟨hself, -, hfar, -⟩ := hspan (contact 0x80) 2 (by decide)
    obtain ⟨furthest, -, hrank, -, heq⟩ := hfar (mt hself.mp (by decide)) (by decide)
    -- the contact of rank two is the farther one
    have hmem := hrank.mem
    have hnot : ¬2 ≤ [contact 2, contact 1].countP fun other =>
        other.distanceTo .zero ≤ (contact 1).distanceTo .zero := by decide
    simp only [List.mem_cons, List.not_mem_nil, or_false] at hmem
    rcases hmem with rfl | rfl
    · exact heq.trans (by decide)
    · exact absurd hrank.rank_le hnot
  · obtain ⟨hself, hnear, -⟩ := (span_antitone .zero 1024 hswap).2.2 (contact 0x80) 3 (by decide)
    exact hnear (.inl (hself.mpr (by decide)))

end Lifetime

end OverlayStore
