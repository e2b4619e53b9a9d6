import NodeTelemetry.Fetch.Transform
import NodeTelemetry.Proofs.RawGroups

/-!
# The share of a metric in a whole

The share of a metric is computed from two raw metrics, the metric itself and its complement. Both have to be counts:
whole numbers, with or without a sign, that are not negative. The complement is looked at first, so of two faults
its one is told. The whole of two counts stops at the largest number of 64 bits. So it is not smaller than either count,
and it is zero only where both are, which is told as an error of its own.

## Main definitions

* `RawValue.IsCount`, `RawGroups.Counts`: the raw metrics that a share can be computed from.
* `RawGroups.Fault`: what is told of a raw metric that is no count.

## Main statements

* `RawGroups.counts_or_fault`: every raw metric counts something or has a fault.
* `Fetch.complementPercentage_guarded`: when there is a share, what it is, and why there is none.
-/

namespace NodeTelemetry

/-- A raw value that is a whole number and not negative. -/
inductive RawValue.IsCount : RawValue → Nat → Prop
  | unsigned (n : UInt64) : IsCount (.scalar (.uint n)) n.toNat
  | signed {n : Int64} (h : 0 ≤ n.toInt) : IsCount (.scalar (.int n)) n.toInt.toNat

namespace RawGroups

/-- An entity has a raw metric that is a count. -/
def Counts (groups : RawGroups) (group id key : String) (n : Nat) : Prop :=
  ∃ metrics v, groups.entity? group id = some metrics ∧ metrics.get? key = some v ∧ v.IsCount n

/-- What is told of a raw metric that is no count: the look-up fails, or the value is of another kind. -/
inductive Fault (groups : RawGroups) (group id key : String) : FetchError → Prop
  | noEntity (h : groups.entity? group id = none) : Fault groups group id key (.entityNotFound group id)
  | noMetric {metrics : RawMetrics} (he : groups.entity? group id = some metrics)
      (hv : metrics.get? key = none) : Fault groups group id key (.metricNotFound group id key)
  | several {metrics : RawMetrics} {labels : TextMap String} (he : groups.entity? group id = some metrics)
      (hv : metrics.get? key = some (.labels labels)) :
      Fault groups group id key (.transform ("error transforming " ++ key ++ ": multiple values"))
  | kind {metrics : RawMetrics} {v : RawValue} (he : groups.entity? group id = some metrics)
      (hv : metrics.get? key = some v) (hsingle : ∀ labels, v ≠ .labels labels) (hcount : ∀ n, ¬v.IsCount n) :
      Fault groups group id key (.transform ("error transforming " ++ key))

theorem counts_or_fault (groups : RawGroups) (group id key : String) :
    (∃ n, groups.Counts group id key n) ∨ ∃ e, groups.Fault group id key e := by
  cases he : groups.entity? group id with
  | none => exact .inr ⟨_, .noEntity he⟩
  | some metrics =>
    cases hv : metrics.get? key with
    | none => exact .inr ⟨_, .noMetric he hv⟩
    | some v =>
      by_cases hcount : ∃ n, v.IsCount n
      · obtain ⟨n, hn⟩ := hcount
        exact .inl ⟨n, metrics, v, he, hv, hn⟩
      · have hno : ∀ n, ¬v.IsCount n := fun n hn => hcount ⟨n, hn⟩
        cases v with
        | labels l => exact .inr ⟨_, .several he hv⟩
        | scalar s => exact .inr ⟨_, .kind he hv (by simp) hno⟩
        | sample s => exact .inr ⟨_, .kind he hv (by simp) hno⟩

theorem Counts.lt {groups : RawGroups} {group id key : String} {n : Nat} (h : groups.Counts group id key n) :
    n < UInt64.size := by
  obtain ⟨_, _, -, -, hcount⟩ := h
  cases hcount with
  | unsigned n => exact n.toNat_lt
  | @signed i h =>
    have hlt := i.toInt_lt
    simp only [UInt64.size]
    omega

end RawGroups

namespace Fetch

variable {groups : RawGroups} {group id key desired complement : String} {a b : Nat} {e : FetchError}

/-! ### One of the two raw metrics -/

/-- A raw metric that has to be a count. -/
def count (key group id : String) (groups : RawGroups) : Except FetchError UInt64 :=
  raw key group id groups >>= Transform.unsigned key

theorem unsigned_of_isCount {v : RawValue} (h : v.IsCount a) :
    Transform.unsigned key v.fetched = .ok (UInt64.ofNat a) := by
  cases h with
  | unsigned n => exact congrArg Except.ok UInt64.ofNat_toNat.symm
  | signed h => exact if_pos h

theorem unsigned_of_not_isCount {v : RawValue} (hsingle : ∀ labels, v ≠ .labels labels)
    (hcount : ∀ n, ¬v.IsCount n) :
    Transform.unsigned key v.fetched = .error (.transform ("error transforming " ++ key)) := by
  cases v with
  | labels l => exact absurd rfl (hsingle l)
  | sample s => rfl
  | scalar s =>
    cases s with
    | uint n => exact absurd (.unsigned n) (hcount n.toNat)
    | int n => exact if_neg fun h => hcount _ (.signed h)
    | _ => rfl

theorem count_of_counts (h : groups.Counts group id key a) :
    count key group id groups = .ok (UInt64.ofNat a) := by
  obtain ⟨metrics, v, he, hv, hcount⟩ := h
  rw [count, raw, RawGroups.metric_eq_ok he hv]
  exact unsigned_of_isCount hcount

theorem count_of_fault (h : groups.Fault group id key e) : count key group id groups = .error e := by
  rw [count, raw]
  cases h with
  | noEntity he => simp [RawGroups.metric, RawGroups.entity, he, Except.map, bind, Except.bind]
  | noMetric he hv => simp [RawGroups.metric, RawGroups.entity, he, hv, Except.map, bind, Except.bind]
  | several he hv =>
    rw [RawGroups.metric_eq_ok he hv]
    rfl
  | kind he hv hsingle hcount =>
    rw [RawGroups.metric_eq_ok he hv]
    exact unsigned_of_not_isCount hsingle hcount

/-! ### The share -/

/-- What is told of two counts that are both zero. -/
def noWhole (desired complement : String) : FetchError :=
  .transform ("error computing percentage for " ++ desired ++ " & " ++ complement ++ ": division by zero")

theorem complementPercentage_eq (desired complement group id : String) (groups : RawGroups) :
    complementPercentage desired complement group id groups =
      (count complement group id groups).bind fun b => (count desired group id groups).bind fun a =>
        if saturatingTotal a b = 0 then .error (noWhole desired complement)
        else .ok (.scalar (.float (Float.ofNat a.toNat / Float.ofNat (saturatingTotal a b) * 100.0))) := by
  rw [complementPercentage, count, count]
  cases raw complement group id groups with
  | error e => rfl
  | ok v =>
    cases raw desired group id groups with
    | error e => rfl
    | ok w => rfl

theorem complementPercentage_of_fault (h : groups.Fault group id complement e) :
    complementPercentage desired complement group id groups = .error e := by
  rw [complementPercentage_eq, count_of_fault h]
  rfl

theorem complementPercentage_of_fault_desired (hb : groups.Counts group id complement b)
    (h : groups.Fault group id desired e) :
    complementPercentage desired complement group id groups = .error e := by
  rw [complementPercentage_eq, count_of_counts hb, count_of_fault h]
  rfl

theorem complementPercentage_of_counts (ha : groups.Counts group id desired a)
    (hb : groups.Counts group id complement b) :
    complementPercentage desired complement group id groups =
      if a + b = 0 then .error (noWhole desired complement)
      else .ok (.scalar (.float (Float.ofNat a / Float.ofNat (min (a + b) (UInt64.size - 1)) * 100.0))) := by
  have hanat : (UInt64.ofNat a).toNat = a := UInt64.toNat_ofNat_of_lt' ha.lt
  have hbnat : (UInt64.ofNat b).toNat = b := UInt64.toNat_ofNat_of_lt' hb.lt
  have hzero : min (a + b) (UInt64.size - 1) = 0 ↔ a + b = 0 := by
    simp only [UInt64.size]
    omega
  rw [complementPercentage_eq, count_of_counts ha, count_of_counts hb]
  simp only [Except.bind, saturatingTotal, hanat, hbnat, hzero]

theorem complementPercentage_cases (desired complement group id : String) (groups : RawGroups) :
    (∃ e, groups.Fault group id complement e ∧
        complementPercentage desired complement group id groups = .error e) ∨
      (∃ b e, groups.Counts group id complement b ∧ groups.Fault group id desired e ∧
        complementPercentage desired complement group id groups = .error e) ∨
      (groups.Counts group id desired 0 ∧ groups.Counts group id complement 0 ∧
        complementPercentage desired complement group id groups = .error (noWhole desired complement)) ∨
      ∃ a b, groups.Counts group id desired a ∧ groups.Counts group id complement b ∧ ¬(a = 0 ∧ b = 0) := by
  rcases groups.counts_or_fault group id complement with ⟨b, hb⟩ | ⟨e, he⟩
  · rcases groups.counts_or_fault group id desired with ⟨a, ha⟩ | ⟨e, he⟩
    · by_cases hzero : a = 0 ∧ b = 0
      · obtain ⟨rfl, rfl⟩ := hzero
        exact .inr (.inr (.inl ⟨ha, hb, complementPercentage_of_counts ha hb⟩))
      · exact .inr (.inr (.inr ⟨a, b, ha, hb, hzero⟩))
    · exact .inr (.inl ⟨b, e, hb, he, complementPercentage_of_fault_desired hb he⟩)
  · exact .inl ⟨e, he, complementPercentage_of_fault he⟩

theorem exists_share (ha : groups.Counts group id desired a) (hb : groups.Counts group id complement b)
    (hne : ¬(a = 0 ∧ b = 0)) :
    ∃ total, complementPercentage desired complement group id groups =
        .ok (.scalar (.float (Float.ofNat a / Float.ofNat total * 100.0))) ∧
      total ≠ 0 ∧ a ≤ total ∧ (a + b < UInt64.size → total = a + b) ∧
      (UInt64.size ≤ a + b → total = UInt64.size - 1) := by
  have hlt := ha.lt
  refine ⟨min (a + b) (UInt64.size - 1), ?_, ?_⟩
  · rw [complementPercentage_of_counts ha hb, if_neg (by omega)]
  · simp only [UInt64.size] at hlt ⊢
    omega

/-- There is a share of two counts that are not both zero. Its whole is the sum of the counts as far as that has
64 bits, and so neither zero nor smaller than the count that is asked for. Else the error is that of the complement; or
if the complement is a count, that of the metric itself; or if both are counts, that there is no whole. -/
theorem complementPercentage_guarded (desired complement group id : String) (groups : RawGroups) :
    ((∃ v, complementPercentage desired complement group id groups = .ok v) ↔
      ∃ a b, groups.Counts group id desired a ∧ groups.Counts group id complement b ∧ ¬(a = 0 ∧ b = 0)) ∧
    (∀ a b, groups.Counts group id desired a → groups.Counts group id complement b → ¬(a = 0 ∧ b = 0) →
      ∃ total, complementPercentage desired complement group id groups =
          .ok (.scalar (.float (Float.ofNat a / Float.ofNat total * 100.0))) ∧
        total ≠ 0 ∧ a ≤ total ∧ (a + b < UInt64.size → total = a + b) ∧
        (UInt64.size ≤ a + b → total = UInt64.size - 1)) ∧
    ∀ e, complementPercentage desired complement group id groups = .error e ↔
      groups.Fault group id complement e ∨
        ∃ b, groups.Counts group id complement b ∧
          (groups.Fault group id desired e ∨
            groups.Counts group id desired 0 ∧ b = 0 ∧ e = noWhole desired complement) := by
  have hcases := complementPercentage_cases desired complement group id groups
  refine ⟨⟨?_, ?_⟩, fun a b ha hb hne => exists_share ha hb hne, fun e => ⟨fun h => ?_, ?_⟩⟩
  · rintro ⟨v, hv⟩
    rcases hcases with ⟨e, -, h⟩ | ⟨b, e, -, -, h⟩ | ⟨-, -, h⟩ | hshare
    · cases h.symm.trans hv
    · cases h.symm.trans hv
    · cases h.symm.trans hv
    · exact hshare
  · rintro ⟨a, b, ha, hb, hne⟩
    obtain ⟨total, htotal, -⟩ := exists_share ha hb hne
    exact ⟨_, htotal⟩
  · rcases hcases with ⟨e', he, h'⟩ | ⟨b, e', hb, he, h'⟩ | ⟨ha, hb, h'⟩ | ⟨a, b, ha, hb, hne⟩
    · obtain rfl := Except.error.inj (h.symm.trans h')
      exact .inl he
    · obtain rfl := Except.error.inj (h.symm.trans h')
      exact .inr ⟨b, hb, .inl he⟩
    · exact .inr ⟨0, hb, .inr ⟨ha, rfl, Except.error.inj (h.symm.trans h')⟩⟩
    · obtain ⟨total, htotal, -⟩ := exists_share ha hb hne
      cases h.symm.trans htotal
  · rintro (he | ⟨b, hb, he | ⟨ha, rfl, rfl⟩⟩)
    · exact complementPercentage_of_fault he
    · exact complementPercentage_of_fault_desired hb he
    · exact complementPercentage_of_counts ha hb

/-- A volume with more bytes than 64 bits can count, one of the two amounts with a sign. -/
def largeVolume : RawGroups :=
  .update .empty "volume" "shop_db_data" fun metrics => metrics.insertAll
    [("fsUsedBytes", .scalar (.int 9000000000000000000)), ("fsAvailableBytes", .scalar (.uint 18000000000000000000))]

/-- The whole of the amounts of a large volume is the largest number of 64 bits. -/
theorem complementPercentage_guarded_largeVolume :
    largeVolume.Counts "volume" "shop_db_data" "fsUsedBytes" 9000000000000000000 ∧
      largeVolume.Counts "volume" "shop_db_data" "fsAvailableBytes" 18000000000000000000 ∧
      complementPercentage "fsUsedBytes" "fsAvailableBytes" "volume" "shop_db_data" largeVolume =
        .ok (.scalar (.float
          (Float.ofNat 9000000000000000000 / Float.ofNat 18446744073709551615 * 100.0))) := by
  have hused : largeVolume.Counts "volume" "shop_db_data" "fsUsedBytes" 9000000000000000000 :=
    ⟨_, _, rfl, rfl, .signed (by decide)⟩
  have havailable : largeVolume.Counts "volume" "shop_db_data" "fsAvailableBytes" 18000000000000000000 :=
    ⟨_, _, rfl, rfl, .unsigned _⟩
  obtain ⟨total, hshare, -, -, -, htotal⟩ :=
    (complementPercentage_guarded "fsUsedBytes" "fsAvailableBytes" "volume" "shop_db_data" largeVolume).2.1
      _ _ hused havailable (by decide)
  rw [htotal (by decide)] at hshare
  exact ⟨hused, havailable, hshare⟩

end Fetch

end NodeTelemetry
