import Mathlib.Data.List.Nodup
import Mathlib.Data.List.Range
import ControlAssurance.Lib.Checked
import ControlAssurance.ControlPlane.Models

/-!
# Due windows of one deployment

`due_window_ends` of `runtime/scheduling.py`. A deployment that was applied at
`applied` and superseded at `superseded` owes one run for each window whose end
lies on the schedule's grid, that is wholly inside its validity, and whose
collection lag has passed: `DueWindow` is that rule, and `mem_dueEnds` says that
the list the code builds is exactly it. What the code adds is a limit on the
length of the list, counted from the first window the deployment ever had.
-/

namespace ControlAssurance.Runtime

open Lib ControlPlane

/-- `_ceil_div` for a positive divisor. -/
def ceilDiv (value divisor : Int) : Int := -(-value / divisor)

section

variable (cfg : ControlConfiguration) (applied : Time) (superseded : Option Time)
  (through : Time)

/-- A window of the schedule that is due at the horizon. -/
structure DueWindow (windowEnd : Time) : Prop where
  enabled : cfg.enabled = true
  aligned : (cfg.schedule.intervalSeconds : Int) ∣ windowEnd
  after : applied ≤ windowEnd - cfg.schedule.windowSeconds
  before : ∀ s, superseded = some s → windowEnd ≤ s
  lagged : windowEnd + cfg.schedule.collectionLagSeconds ≤ through

def firstEnd : Int :=
  ceilDiv (applied + cfg.schedule.windowSeconds) cfg.schedule.intervalSeconds
    * cfg.schedule.intervalSeconds

def lastEnd : Int :=
  let interval : Int := cfg.schedule.intervalSeconds
  let horizonEnd := (through - cfg.schedule.collectionLagSeconds) / interval * interval
  match superseded with
  | none => horizonEnd
  | some s => min horizonEnd (s / interval * interval)

/-- How many windows lie between the first and the last end. -/
def dueCount : Nat :=
  ((lastEnd cfg superseded through - firstEnd cfg applied)
    / cfg.schedule.intervalSeconds + 1).toNat

/-- The ends of all windows that are due. -/
def dueEnds : List Time :=
  if cfg.enabled then
    (List.range (dueCount cfg applied superseded through)).map fun index : Nat =>
      firstEnd cfg applied + (index : Int) * cfg.schedule.intervalSeconds
  else []

/-- `due_window_ends`; the errors are the texts of its `ValueError`s. -/
def dueWindowEnds (limit : Nat) : Except String (List Time) := do
  require (∀ s, superseded = some s → applied < s)
    "deployment validity interval must be non-empty"
  require (1 ≤ limit ∧ limit ≤ 100000) "window materialization limit is invalid"
  if cfg.enabled = false then
    pure []
  else if lastEnd cfg superseded through < firstEnd cfg applied then
    pure []
  else do
    require (dueCount cfg applied superseded through ≤ limit)
      "due window count exceeds the bounded materialization limit"
    pure ((List.range (dueCount cfg applied superseded through)).map fun index : Nat =>
      firstEnd cfg applied + (index : Int) * cfg.schedule.intervalSeconds)

end

variable {cfg : ControlConfiguration} {applied : Time} {superseded : Option Time}
  {through : Time}

theorem interval_pos (cfg : ControlConfiguration) :
    0 < (cfg.schedule.intervalSeconds : Int) := by
  have := cfg.schedule.interval_range.1
  omega

/-! ## The grid -/

/-- `⌈a / d⌉ · d` is the first multiple of `d` from `a` on. -/
theorem ceilDiv_mul_le {a d m : Int} (hd : 0 < d) : ceilDiv a d * d ≤ m * d ↔ a ≤ m * d := by
  unfold ceilDiv
  rw [Int.mul_le_mul_right hd]
  have hiff : -m ≤ -a / d ↔ -m * d ≤ -a := Int.le_ediv_iff_mul_le hd
  have hneg : -m * d = -(m * d) := Int.neg_mul m d
  rw [hneg] at hiff
  omega

/-- `⌊a / d⌋ · d` is the last multiple of `d` up to `a`. -/
theorem le_ediv_mul {a d m : Int} (hd : 0 < d) : m * d ≤ a / d * d ↔ m * d ≤ a := by
  rw [Int.mul_le_mul_right hd]
  exact Int.le_ediv_iff_mul_le hd

theorem firstEnd_le {m : Int} :
    firstEnd cfg applied ≤ m * cfg.schedule.intervalSeconds ↔
      applied ≤ m * cfg.schedule.intervalSeconds - cfg.schedule.windowSeconds := by
  unfold firstEnd
  rw [ceilDiv_mul_le (interval_pos cfg)]
  exact ⟨fun h => Int.le_sub_right_of_add_le h, fun h => Int.add_le_of_le_sub_right h⟩

theorem le_lastEnd {m : Int} :
    m * cfg.schedule.intervalSeconds ≤ lastEnd cfg superseded through ↔
      m * cfg.schedule.intervalSeconds + cfg.schedule.collectionLagSeconds ≤ through
        ∧ ∀ s, superseded = some s → m * cfg.schedule.intervalSeconds ≤ s := by
  have hlag : m * cfg.schedule.intervalSeconds
        ≤ (through - cfg.schedule.collectionLagSeconds) / cfg.schedule.intervalSeconds
          * cfg.schedule.intervalSeconds
      ↔ m * cfg.schedule.intervalSeconds + cfg.schedule.collectionLagSeconds ≤ through := by
    rw [le_ediv_mul (interval_pos cfg)]
    exact ⟨fun h => Int.add_le_of_le_sub_right h, fun h => Int.le_sub_right_of_add_le h⟩
  unfold lastEnd
  cases superseded with
  | none =>
    show m * _ ≤ _ / _ * _ ↔ _
    rw [hlag]
    exact ⟨fun h => ⟨h, fun s hs => by cases hs⟩, fun h => h.1⟩
  | some s =>
    show m * _ ≤ min _ _ ↔ _
    rw [Int.le_min, hlag, le_ediv_mul (interval_pos cfg)]
    constructor
    · rintro ⟨h₁, h₂⟩
      refine ⟨h₁, fun s' hs' => ?_⟩
      cases hs'
      exact h₂
    · rintro ⟨h₁, h₂⟩
      exact ⟨h₁, h₂ s rfl⟩

/-- The first end and the last end are multiples of the interval. -/
theorem firstEnd_aligned (cfg : ControlConfiguration) (applied : Time) :
    (cfg.schedule.intervalSeconds : Int) ∣ firstEnd cfg applied :=
  Int.dvd_mul_left ..

theorem lastEnd_aligned (cfg : ControlConfiguration) (superseded : Option Time)
    (through : Time) :
    (cfg.schedule.intervalSeconds : Int) ∣ lastEnd cfg superseded through := by
  unfold lastEnd
  cases superseded with
  | none => exact Int.dvd_mul_left ..
  | some s =>
    show _ ∣ min _ _
    rcases Int.le_total ((through - cfg.schedule.collectionLagSeconds)
        / (cfg.schedule.intervalSeconds : Int) * cfg.schedule.intervalSeconds)
      (s / (cfg.schedule.intervalSeconds : Int) * cfg.schedule.intervalSeconds) with h | h
    · rw [Int.min_eq_left h]
      exact Int.dvd_mul_left ..
    · rw [Int.min_eq_right h]
      exact Int.dvd_mul_left ..

/-! ## The list is the rule -/

/-- The list holds exactly the windows that are due. -/
theorem mem_dueEnds {e : Time} :
    e ∈ dueEnds cfg applied superseded through ↔ DueWindow cfg applied superseded through e := by
  have hpos := interval_pos cfg
  obtain ⟨f, hf⟩ := firstEnd_aligned cfg applied
  obtain ⟨l, hl⟩ := lastEnd_aligned cfg superseded through
  rw [Int.mul_comm] at hf hl
  have hcount : dueCount cfg applied superseded through = (l - f + 1).toNat := by
    unfold dueCount
    rw [hf, hl, ← Int.sub_mul, Int.mul_ediv_cancel _ (Int.ne_of_gt hpos)]
  unfold dueEnds
  constructor
  · intro he
    split at he
    next hen =>
      obtain ⟨i, hi, rfl⟩ := List.mem_map.mp he
      rw [List.mem_range, hcount] at hi
      have hend : firstEnd cfg applied + i * (cfg.schedule.intervalSeconds : Int)
          = (f + i) * cfg.schedule.intervalSeconds := by rw [hf, Int.add_mul]
      rw [hend]
      have hlow : firstEnd cfg applied ≤ (f + i) * cfg.schedule.intervalSeconds := by
        rw [hf, Int.mul_le_mul_right hpos]
        omega
      have hhigh : (f + i) * cfg.schedule.intervalSeconds
          ≤ lastEnd cfg superseded through := by
        rw [hl, Int.mul_le_mul_right hpos]
        omega
      obtain ⟨hlag, hsup⟩ := le_lastEnd.mp hhigh
      exact ⟨hen, Int.dvd_mul_left .., firstEnd_le.mp hlow, hsup, hlag⟩
    next => cases he
  · intro hdue
    rw [if_pos hdue.enabled]
    obtain ⟨m, hm⟩ := hdue.aligned
    rw [Int.mul_comm] at hm
    subst hm
    have hlow := firstEnd_le.mpr hdue.after
    have hhigh := le_lastEnd.mpr ⟨hdue.lagged, hdue.before⟩
    rw [hf, Int.mul_le_mul_right hpos] at hlow
    rw [hl, Int.mul_le_mul_right hpos] at hhigh
    refine List.mem_map.mpr ⟨(m - f).toNat, ?_, ?_⟩
    · rw [List.mem_range, hcount]
      omega
    · have hnat : ((m - f).toNat : Int) = m - f := Int.toNat_of_nonneg (by omega)
      rw [hnat, hf, ← Int.add_mul]
      congr 1
      omega

theorem dueEnds_nodup : (dueEnds cfg applied superseded through).Nodup := by
  unfold dueEnds
  split
  next =>
    refine List.Nodup.map ?_ List.nodup_range
    intro i j hij
    have hmul : (i : Int) * cfg.schedule.intervalSeconds
        = (j : Int) * cfg.schedule.intervalSeconds := Int.add_left_cancel hij
    have := Int.eq_of_mul_eq_mul_right (Int.ne_of_gt (interval_pos cfg)) hmul
    omega
  next => exact List.nodup_nil

/-- The code answers with the list, unless the validity is empty, the limit is out of range, or
the list is longer than the limit. -/
theorem dueWindowEnds_eq {limit : Nat} : dueWindowEnds cfg applied superseded through limit = (do
    require (∀ s, superseded = some s → applied < s)
      "deployment validity interval must be non-empty"
    require (1 ≤ limit ∧ limit ≤ 100000) "window materialization limit is invalid"
    require ((dueEnds cfg applied superseded through).length ≤ limit)
      "due window count exceeds the bounded materialization limit"
    pure (dueEnds cfg applied superseded through)) := by
  unfold dueWindowEnds
  refine bind_congr fun _ => bind_congr fun _ => ?_
  unfold dueEnds
  split
  next hdis =>
    rw [hdis]
    exact (require_pos (Nat.zero_le _)).symm ▸ rfl
  next hen =>
    have hen : cfg.enabled = true := by simpa using hen
    rw [if_pos hen, List.length_map, List.length_range]
    split
    next hlt =>
      -- the first end is past the last one, by at least a whole interval
      have hneg : (lastEnd cfg superseded through - firstEnd cfg applied)
          / (cfg.schedule.intervalSeconds : Int) < 0 :=
        Int.ediv_neg_of_neg_of_pos (Int.sub_neg_of_lt hlt) (interval_pos cfg)
      have hzero : dueCount cfg applied superseded through = 0 := by
        unfold dueCount
        omega
      rw [hzero, require_pos (Nat.zero_le _)]
      rfl
    next => rfl

theorem dueWindowEnds_eq_ok {limit : Nat} {ends : List Time} :
    dueWindowEnds cfg applied superseded through limit = .ok ends ↔
      (∀ s, superseded = some s → applied < s) ∧ (1 ≤ limit ∧ limit ≤ 100000)
        ∧ (dueEnds cfg applied superseded through).length ≤ limit
        ∧ ends = dueEnds cfg applied superseded through := by
  simp only [dueWindowEnds_eq, bind_eq_ok, require_eq_ok, pure_eq_ok, exists_const]
  rw [eq_comm (b := ends)]

theorem noLag : 0 ≤ 3600 := by decide

theorem minuteRange : 60 ≤ 60 ∧ 60 ≤ 86400 := by decide

/-- A control that is collected every minute, without lag. -/
def everyMinute : ControlConfiguration :=
  { tenantId := "tenant-a", controlId := "edr-coverage", displayName := "EDR coverage"
    description := "Endpoint agents report", environment := .production, ownerGroup := "soc"
    controlProfileId := "edr", controlProfileDigest := 9
    source := .defender ⟨.global, "t", "c", "vault://client"⟩
    schedule := ⟨60, 0, 60, minuteRange, noLag, minuteRange, Nat.le_refl 60⟩
    evidence := ⟨"custody://a", "kms://a", 365, false⟩, enabled := true }

example : dueWindowEnds everyMinute 30 (some 250) 300 10 = .ok [120, 180, 240] := by rfl

example : dueWindowEnds everyMinute 30 none 300 3
    = .error "due window count exceeds the bounded materialization limit" := by rfl

/-! ## The list over horizons and deployments -/

/-- An instant of the half-open window of an end. -/
def InWindow (cfg : ControlConfiguration) (windowEnd instant : Time) : Prop :=
  windowEnd - cfg.schedule.windowSeconds ≤ instant ∧ instant < windowEnd

theorem dueEnds_sorted : (dueEnds cfg applied superseded through).Pairwise (· < ·) := by
  unfold dueEnds
  split
  next =>
    refine List.Pairwise.map _ (fun i j hij => ?_) List.pairwise_lt_range
    have hmul : (i : Int) * cfg.schedule.intervalSeconds < j * cfg.schedule.intervalSeconds :=
      Int.mul_lt_mul_of_pos_right (Int.ofNat_lt.mpr hij) (interval_pos cfg)
    exact Int.add_lt_add_left hmul _
  next => exact List.Pairwise.nil

/-- A later horizon only adds ends behind the others. -/
theorem dueEnds_prefix {later : Time} (h : through ≤ later) :
    dueEnds cfg applied superseded through <+: dueEnds cfg applied superseded later := by
  have hpos := interval_pos cfg
  have hlast : lastEnd cfg superseded through ≤ lastEnd cfg superseded later := by
    obtain ⟨m, hm⟩ := lastEnd_aligned cfg superseded through
    rw [Int.mul_comm] at hm
    obtain ⟨hlag, hsup⟩ := le_lastEnd.mp (Int.le_of_eq hm.symm)
    rw [hm]
    exact le_lastEnd.mpr ⟨Int.le_trans hlag h, hsup⟩
  have hcount : dueCount cfg applied superseded through
      ≤ dueCount cfg applied superseded later := by
    unfold dueCount
    have := Int.ediv_le_ediv hpos (Int.sub_le_sub_right hlast (firstEnd cfg applied))
    omega
  unfold dueEnds
  split
  next =>
    rw [← Nat.min_eq_left hcount, ← List.take_range, List.map_take]
    exact List.take_prefix _ _
  next => exact List.prefix_rfl

/-- Two windows of one schedule with an instant in common are the same. -/
theorem DueWindow.disjoint {e e' t : Time} (h : DueWindow cfg applied superseded through e)
    (h' : DueWindow cfg applied superseded through e') (ht : InWindow cfg e t)
    (ht' : InWindow cfg e' t) : e = e' := by
  have hwindow : (cfg.schedule.windowSeconds : Int) ≤ cfg.schedule.intervalSeconds :=
    Int.ofNat_le.mpr cfg.schedule.window_le_interval
  obtain ⟨htlow, hthigh⟩ := ht
  obtain ⟨htlow', hthigh'⟩ := ht'
  -- the ends are less than one interval apart, and on its grid
  obtain ⟨m, rfl⟩ := h.aligned
  obtain ⟨m', rfl⟩ := h'.aligned
  have hpos := interval_pos cfg
  have hle : ∀ a b : Int, cfg.schedule.intervalSeconds * a - cfg.schedule.windowSeconds
      < cfg.schedule.intervalSeconds * b → a ≤ b := by
    intro a b hab
    have hnext : cfg.schedule.intervalSeconds * a < cfg.schedule.intervalSeconds * (b + 1) := by
      rw [Int.mul_add, Int.mul_one]
      omega
    have := Int.lt_of_mul_lt_mul_left hnext (Int.le_of_lt hpos)
    omega
  rw [Int.le_antisymm (hle m m' (Int.lt_of_le_of_lt htlow hthigh'))
    (hle m' m (Int.lt_of_le_of_lt htlow' hthigh))]

/-- The instants of a due window lie inside the validity of the deployment. -/
theorem DueWindow.inside {e t : Time} (h : DueWindow cfg applied superseded through e)
    (ht : InWindow cfg e t) : applied ≤ t ∧ ∀ s, superseded = some s → t < s :=
  ⟨Int.le_trans h.after ht.1, fun s hs => Int.lt_of_lt_of_le ht.2 (h.before s hs)⟩

/-- **Due windows are exactly the schedule.** The answer is the sorted list of all windows that
are due, or a refusal because there are more than the limit; its windows are disjoint and inside
the validity of the deployment, a later horizon only adds to the list, and no window of a
deployment overlaps one of a deployment that is applied after its supersession. -/
theorem due_windows_exact (cfg : ControlConfiguration) (applied : Time) (superseded : Option Time)
    (through : Time) (limit : Nat) (hvalid : ∀ s, superseded = some s → applied < s) :
    (¬(1 ≤ limit ∧ limit ≤ 100000) ∧ dueWindowEnds cfg applied superseded through limit
        = .error "window materialization limit is invalid"
      ∨ (1 ≤ limit ∧ limit ≤ 100000) ∧ ∃ due : List Time, due.Pairwise (· < ·)
        ∧ (∀ e, e ∈ due ↔ DueWindow cfg applied superseded through e)
        ∧ (limit < due.length ∧ dueWindowEnds cfg applied superseded through limit
            = .error "due window count exceeds the bounded materialization limit"
          ∨ due.length ≤ limit
            ∧ dueWindowEnds cfg applied superseded through limit = .ok due))
    ∧ ∀ ends, dueWindowEnds cfg applied superseded through limit = .ok ends →
      (∀ e ∈ ends, ∀ e' ∈ ends, e ≠ e' → ∀ t, InWindow cfg e t → ¬InWindow cfg e' t)
      ∧ (∀ e ∈ ends, ∀ t, InWindow cfg e t →
        applied ≤ t ∧ ∀ s, superseded = some s → t < s)
      ∧ (∀ later limit' ends', through ≤ later →
        dueWindowEnds cfg applied superseded later limit' = .ok ends' → ends <+: ends')
      ∧ ∀ s, superseded = some s → ∀ cfg' applied' superseded' through' limit' ends',
        s ≤ applied' → dueWindowEnds cfg' applied' superseded' through' limit' = .ok ends' →
        ∀ e ∈ ends, ∀ e' ∈ ends', ∀ t, InWindow cfg e t → ¬InWindow cfg' e' t := by
  constructor
  · by_cases hlimit : 1 ≤ limit ∧ limit ≤ 100000
    · refine .inr ⟨hlimit, _, dueEnds_sorted, fun _ => mem_dueEnds, ?_⟩
      by_cases hcount : (dueEnds cfg applied superseded through).length ≤ limit
      · exact .inr ⟨hcount, dueWindowEnds_eq_ok.mpr ⟨hvalid, hlimit, hcount, rfl⟩⟩
      · refine .inl ⟨Nat.lt_of_not_le hcount, ?_⟩
        rw [dueWindowEnds_eq, require_pos hvalid, ok_bind, require_pos hlimit, ok_bind,
          require_neg hcount]
        rfl
    · refine .inl ⟨hlimit, ?_⟩
      rw [dueWindowEnds_eq, require_pos hvalid, ok_bind, require_neg hlimit]
      rfl
  · intro ends hends
    obtain ⟨-, -, -, rfl⟩ := dueWindowEnds_eq_ok.mp hends
    refine ⟨fun e he e' he' hne t ht ht' => ?_, fun e he t ht => ?_, ?_, ?_⟩
    · exact hne ((mem_dueEnds.mp he).disjoint (mem_dueEnds.mp he') ht ht')
    · exact (mem_dueEnds.mp he).inside ht
    · intro later limit' ends' hlater hends'
      obtain ⟨-, -, -, rfl⟩ := dueWindowEnds_eq_ok.mp hends'
      exact dueEnds_prefix hlater
    · intro s hs cfg' applied' superseded' through' limit' ends' hafter hends' e he e' he' t ht ht'
      obtain ⟨-, -, -, rfl⟩ := dueWindowEnds_eq_ok.mp hends'
      have hbefore := ((mem_dueEnds.mp he).inside ht).2 s hs
      have hfrom := ((mem_dueEnds.mp he').inside ht').1
      exact Int.lt_irrefl _ (Int.lt_of_lt_of_le hbefore (Int.le_trans hafter hfrom))

theorem every_minute_extends :
    dueWindowEnds everyMinute 30 (some 250) 200 10 = .ok [120, 180]
      ∧ ([120, 180] : List Time) <+: [120, 180, 240] :=
  ⟨rfl, ((due_windows_exact everyMinute 30 (some 250) 200 10 (fun s hs => by cases hs; decide)).2
    [120, 180] rfl).2.2.1 300 10 [120, 180, 240] (by decide) rfl⟩

end ControlAssurance.Runtime
