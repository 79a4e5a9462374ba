/-
This file proves what the ranking of offers is. Sorting puts the offers in the
order of metric and forwarding hop, so the first offer of a hop is the one of
least metric, and keeping the first offer of every hop leaves a strictly
ascending list that holds each offered hop once, at its least metric.
-/

import ControlPlane.Rib.Selection

namespace ControlPlane

/-! ### Sorted lists -/

namespace OrderKey

variable {Key : Type} [OrderKey Key]

theorem mem_sort {key : Key} {keys : List Key} : key ∈ sort keys ↔ key ∈ keys :=
  (sort_perm keys).mem_iff

theorem insertOrdered_pairwise (key : Key) {keys : List Key}
    (ascending : keys.Pairwise fun earlier later => ¬ Before later earlier) :
    (insertOrdered key keys).Pairwise fun earlier later => ¬ Before later earlier := by
  induction keys with
  | nil => exact List.pairwise_singleton _ _
  | cons head tail inductionHypothesis =>
    have headFirst := (List.pairwise_cons.1 ascending).1
    have tailAscending := (List.pairwise_cons.1 ascending).2
    simp only [insertOrdered]
    split
    next before =>
      refine List.pairwise_cons.2 ⟨fun later member => ?_, inductionHypothesis tailAscending⟩
      rcases List.mem_cons.1 ((insertOrdered_perm key tail).mem_iff.1 member) with rfl | inTail
      · exact before.asymm
      · exact headFirst later inTail
    next notBefore =>
      refine List.pairwise_cons.2 ⟨fun later member => ?_, ascending⟩
      rcases List.mem_cons.1 member with rfl | inTail
      · exact notBefore
      · intro before
        -- `later` would come before `key`, which does not come after `head`
        by_cases same : head = key
        · exact headFirst later inTail (same ▸ before)
        · exact headFirst later inTail
            (before.trans (before_of_not_before_of_ne notBefore same))

/-- No sorted key comes before an earlier one. -/
theorem sort_pairwise (keys : List Key) :
    (sort keys).Pairwise fun earlier later => ¬ Before later earlier := by
  induction keys with
  | nil => exact List.Pairwise.nil
  | cons key keys inductionHypothesis => exact insertOrdered_pairwise key inductionHypothesis

/-- Pairs that start with a word compare by the word and then by what follows. -/
theorem before_pair_iff {first second : UInt32 × Key} :
    Before first second ↔
      first.1 < second.1 ∨ first.1 = second.1 ∧ Before first.2 second.2 := by
  show first.1.toNat :: code first.2 < second.1.toNat :: code second.2 ↔ _
  rw [List.cons_lt_cons_iff, UInt32.lt_iff_toNat_lt, UInt32.toNat_inj]
  rfl

end OrderKey

/-! ### Distinct offers -/

theorem distinctOffers_sublist (offers : List (UInt32 × ForwardingHop)) :
    (distinctOffers offers).Sublist offers := by
  induction offers with
  | nil => exact List.Sublist.slnil
  | cons offer rest inductionHypothesis =>
    exact (List.filter_sublist.trans inductionHypothesis).cons_cons offer

theorem distinctOffers_pairwise_ne (offers : List (UInt32 × ForwardingHop)) :
    (distinctOffers offers).Pairwise fun earlier later => earlier.2 ≠ later.2 := by
  induction offers with
  | nil => exact List.Pairwise.nil
  | cons offer rest inductionHypothesis =>
    refine List.pairwise_cons.2 ⟨fun later member => ?_, inductionHypothesis.filter _⟩
    have different := (List.mem_filter.1 member).2
    exact fun same => (of_decide_eq_true different) same.symm

/-- Among sorted offers the first one of a hop is the one of least metric. -/
theorem mem_distinctOffers_iff {offers : List (UInt32 × ForwardingHop)}
    (ascending : offers.Pairwise fun earlier later => ¬ OrderKey.Before later earlier)
    {offer : UInt32 × ForwardingHop} :
    offer ∈ distinctOffers offers ↔
      offer ∈ offers ∧ ∀ other ∈ offers, other.2 = offer.2 → offer.1 ≤ other.1 := by
  induction offers with
  | nil => simp [distinctOffers]
  | cons head rest inductionHypothesis =>
    have headFirst := (List.pairwise_cons.1 ascending).1
    have restAscending := (List.pairwise_cons.1 ascending).2
    have headLeast : ∀ other ∈ rest, head.1 ≤ other.1 := by
      intro other member
      have notBefore := headFirst other member
      rw [OrderKey.before_pair_iff, not_or] at notBefore
      exact UInt32.not_lt.1 notBefore.1
    rw [distinctOffers, List.mem_cons, List.mem_filter, inductionHypothesis restAscending]
    constructor
    · rintro (rfl | ⟨⟨member, least⟩, different⟩)
      · refine ⟨List.mem_cons_self, fun other inOffers _ => ?_⟩
        rcases List.mem_cons.1 inOffers with rfl | inRest
        · exact UInt32.le_refl _
        · exact headLeast other inRest
      · refine ⟨List.mem_cons_of_mem _ member, fun other inOffers same => ?_⟩
        rcases List.mem_cons.1 inOffers with rfl | inRest
        · exact absurd same.symm (of_decide_eq_true different)
        · exact least other inRest same
    · rintro ⟨member, least⟩
      rcases List.mem_cons.1 member with same | inRest
      · exact Or.inl same
      · by_cases sameHop : head.2 = offer.2
        · -- both have the hop and neither metric exceeds the other, so it is the same offer
          have metrics : offer.1 = head.1 :=
            UInt32.le_antisymm (least head List.mem_cons_self sameHop) (headLeast offer inRest)
          exact Or.inl (Prod.ext metrics sameHop.symm)
        · refine Or.inr ⟨⟨inRest, fun other inRest same => ?_⟩, decide_eq_true (Ne.symm sameHop)⟩
          exact least other (List.mem_cons_of_mem _ inRest) same

/-! ### Rankings -/

/-- What a ranking of offered hops is: it lists every hop at the least metric it is offered at,
and ascends strictly by metric and then by hop. There is only one such list. -/
structure IsRanking (offered : UInt32 → ForwardingHop → Prop)
    (ranked : List (UInt32 × ForwardingHop)) : Prop where
  mem_iff : ∀ metric hop, (metric, hop) ∈ ranked ↔
    offered metric hop ∧ ∀ other, offered other hop → metric ≤ other
  ascending : ranked.Pairwise fun earlier later =>
    earlier.1 < later.1 ∨ earlier.1 = later.1 ∧ OrderKey.Before earlier.2 later.2

namespace IsRanking

variable {offered : UInt32 → ForwardingHop → Prop} {ranked : List (UInt32 × ForwardingHop)}

/-- No hop is ranked twice. -/
theorem nodup_hops (isRanking : IsRanking offered ranked) : (ranked.map Prod.snd).Nodup := by
  refine List.pairwise_map.2 ((isRanking.ascending.imp_of_mem fun first second before => ?_))
  intro same
  have firstLeast := (isRanking.mem_iff _ _).1 first
  have secondLeast := (isRanking.mem_iff _ _).1 second
  rw [same] at firstLeast
  have metrics := UInt32.le_antisymm (firstLeast.2 _ secondLeast.1) (secondLeast.2 _ firstLeast.1)
  rcases before with less | ⟨_, before⟩
  · exact UInt32.lt_irrefl _ (metrics ▸ less)
  · exact OrderKey.not_before_self _ (same ▸ before)

/-- A hop that is offered is ranked, at the metric at hand or a lower one. -/
theorem exists_mem_le (isRanking : IsRanking offered ranked) {metric : UInt32}
    {hop : ForwardingHop} (isOffered : offered metric hop) :
    ∃ least, (least, hop) ∈ ranked ∧ least ≤ metric := by
  induction bound : metric.toNat using Nat.strongRecOn generalizing metric with
  | ind number inductionHypothesis =>
    by_cases lower : ∃ other, offered other hop ∧ other < metric
    · obtain ⟨other, otherOffered, less⟩ := lower
      obtain ⟨least, member, leastLe⟩ := inductionHypothesis other.toNat
        (bound ▸ UInt32.lt_iff_toNat_lt.1 less) otherOffered rfl
      exact ⟨least, member, UInt32.le_trans leastLe (UInt32.le_of_lt less)⟩
    · refine ⟨metric, (isRanking.mem_iff metric hop).2 ⟨isOffered, fun other otherOffered => ?_⟩,
        UInt32.le_refl _⟩
      exact UInt32.not_lt.1 fun less => lower ⟨other, otherOffered, less⟩

/-- The metric that comes first is the lowest one that a hop is offered at. -/
theorem head_le (isRanking : IsRanking offered ranked) {best : UInt32 × ForwardingHop}
    (first : ranked.head? = some best) {metric : UInt32} {hop : ForwardingHop}
    (isOffered : offered metric hop) : best.1 ≤ metric := by
  obtain ⟨least, member, leastLe⟩ := isRanking.exists_mem_le isOffered
  refine UInt32.le_trans ?_ leastLe
  obtain ⟨rest, rfl⟩ := List.head?_eq_some_iff.1 first
  rcases List.mem_cons.1 member with rfl | inRest
  · exact UInt32.le_refl _
  · rcases (List.pairwise_cons.1 isRanking.ascending).1 _ inRest with less | ⟨same, _⟩
    · exact UInt32.le_of_lt less
    · exact UInt32.le_of_eq same

end IsRanking

theorem isRanking_distinctOffers (offers : List (UInt32 × ForwardingHop)) :
    IsRanking (fun metric hop => (metric, hop) ∈ offers)
      (distinctOffers (OrderKey.sort offers)) where
  mem_iff metric hop := by
    rw [mem_distinctOffers_iff (OrderKey.sort_pairwise offers), OrderKey.mem_sort]
    refine and_congr_right fun _ => ⟨fun least other member => ?_, ?_⟩
    · exact least (other, hop) (OrderKey.mem_sort.2 member) rfl
    · rintro least ⟨other, _⟩ member rfl
      exact least other (OrderKey.mem_sort.1 member)
  ascending := by
    have sorted := (OrderKey.sort_pairwise offers).sublist (distinctOffers_sublist _)
    have different := distinctOffers_pairwise_ne (OrderKey.sort offers)
    refine (sorted.and different).imp fun {earlier later} facts => ?_
    rw [← OrderKey.before_pair_iff]
    exact OrderKey.before_of_not_before_of_ne facts.1 fun same =>
      facts.2 (congrArg Prod.snd same).symm

end ControlPlane
