import ChatRace.Gateway.Endpoint
import ChatRace.Metrics.Basic

/-!
# Accounts of the metrics

What the metrics say of a sort of event is the sum over the series of a family whose labels name that sort
(`Family.total`).  Each such sum, and the number of the requests under way, is an `Account`; an observation of a
handled request changes each of them by its credit (`balance_observe`).  Two combinations of label values are one
series if they are the same text when written one after the other, so each family needs that its combinations
can be told apart in that text (`isForm_requests`, `isForm_races`).
-/

namespace ChatRace.Metrics

/-! ### Families -/

namespace Family

/-- The sum of what is measured in the series with certain label values. -/
def total (fam : Family α) (wanted : List String → Bool) (measure : α → Nat) : Nat :=
  ((fam.series.filter fun s => wanted s.values).map fun s => measure s.sample).sum

/-- A form of label values that names a series of its own for each combination. -/
def IsForm (form : List String → Prop) : Prop :=
  ∀ vs ws, form vs → form ws → sameSeries vs ws = true → vs = ws

/-- All label values of a family are of a form. -/
def HasForm (fam : Family α) (form : List String → Prop) : Prop := ∀ s ∈ fam.series, form s.values

variable {fam : Family α} {form : List String → Prop} {values : List String} {zero : α} {f : α → α}

theorem HasForm.update (h : fam.HasForm form) (hvalues : form values) (zero : α) (f : α → α) :
    (fam.update zero f values).HasForm form := by
  have key (series : List (Series α)) (h : ∀ s ∈ series, form s.values) :
      ∀ s ∈ updateIn zero f values series, form s.values := by
    induction series with
    | nil => simpa [updateIn] using hvalues
    | cons s rest ih =>
      obtain ⟨hs, hrest⟩ := List.forall_mem_cons.1 h
      unfold updateIn
      split
      · exact List.forall_mem_cons.2 ⟨hs, hrest⟩
      · exact List.forall_mem_cons.2 ⟨hs, ih hrest⟩
  exact key fam.series h

/-- A sample that measures one more makes a sum one more, if its series belongs to it. -/
theorem total_update (hform : IsForm form) (h : fam.HasForm form) (hvalues : form values)
    (wanted : List String → Bool) {measure : α → Nat} (hzero : measure zero = 0)
    (hf : ∀ a, measure (f a) = measure a + 1) :
    (fam.update zero f values).total wanted measure =
      fam.total wanted measure + if wanted values then 1 else 0 := by
  have key (series : List (Series α)) (h : ∀ s ∈ series, form s.values) :
      (((updateIn zero f values series).filter fun s => wanted s.values).map fun s => measure s.sample).sum =
        ((series.filter fun s => wanted s.values).map fun s => measure s.sample).sum +
          if wanted values then 1 else 0 := by
    induction series with
    | nil => cases hw : wanted values <;> simp [updateIn, hw, hf, hzero]
    | cons s rest ih =>
      obtain ⟨hs, hrest⟩ := List.forall_mem_cons.1 h
      unfold updateIn
      split
      · rename_i hsame
        obtain rfl := hform _ _ hs hvalues hsame
        cases hw : wanted s.values <;> simp [hw, hf]
        omega
      · have hrest := ih hrest
        cases hw : wanted s.values <;> simp only [List.filter_cons, hw, if_true, List.map_cons, List.sum_cons]
        · exact hrest
        · omega
  exact key fam.series h

theorem total_count {fam : Family Nat} (hform : IsForm form) (h : fam.HasForm form) (hvalues : form values)
    (wanted : List String → Bool) :
    (fam.count values).total wanted id = fam.total wanted id + if wanted values then 1 else 0 :=
  total_update hform h hvalues wanted rfl fun _ => rfl

theorem total_observe {fam : Family Histogram} (hform : IsForm form) (h : fam.HasForm form) (hvalues : form values)
    (bounds : List Float) (x : Float) (wanted : List String → Bool) :
    (fam.observe bounds x values).total wanted (·.count) =
      fam.total wanted (·.count) + if wanted values then 1 else 0 :=
  total_update hform h hvalues wanted rfl fun _ => rfl

end Family

/-! ### Labels -/

/-- Texts that end in truth values end in the same one if they are the same. -/
theorem append_flag_inj {v w : String} {b c : Bool} : v ++ flag b = w ++ flag c ↔ v = w ∧ b = c := by
  refine ⟨fun h => ?_, fun ⟨hv, hb⟩ => hv ▸ hb ▸ rfl⟩
  have hlists : (v ++ flag b).toList.reverse = (w ++ flag c).toList.reverse := by rw [h]
  cases b <;> cases c <;> simp [flag] at hlists
  all_goals simp [String.ext_iff, hlists]

/-- The label values of the requests for an answer with a status and a mode. -/
def requestLabels (status : Nat) (stream : Bool) : List String :=
  [Endpoint.chat.path, "POST", toString status, flag stream]

/-- The label values of the durations of the requests for an answer with a mode. -/
def durationLabels (stream : Bool) : List String := [Endpoint.chat.path, "POST", flag stream]

/-- The label values of the races with a winner and a mode. -/
def raceLabels (winner : String) (stream : Bool) : List String := [winner, flag stream]

theorem flag_inj {b c : Bool} : flag b = flag c ↔ b = c := by
  simpa using append_flag_inj (v := "") (w := "")

private theorem toString_inj {m n : Nat} : toString m = toString n ↔ m = n := by
  refine ⟨fun h => ?_, fun h => h ▸ rfl⟩
  have hdigits : Nat.toDigits 10 m = Nat.toDigits 10 n := String.ofList_injective h
  rw [← Nat.ofDigitChars_toDigits (by decide : 1 < 10) (by decide) (n := m), hdigits,
    Nat.ofDigitChars_toDigits (by decide) (by decide)]

theorem requestLabels_inj {m n : Nat} {b c : Bool} :
    requestLabels m b = requestLabels n c ↔ m = n ∧ b = c := by
  simp only [requestLabels, List.cons.injEq, flag_inj, toString_inj, and_true, true_and]

theorem isForm_races : Family.IsForm fun vs => ∃ winner stream, vs = raceLabels winner stream := by
  rintro _ _ ⟨v, b, rfl⟩ ⟨w, c, rfl⟩ h
  have hjoin : v ++ flag b = w ++ flag c := by simpa [Family.sameSeries, raceLabels, String.join_cons] using h
  obtain ⟨rfl, rfl⟩ := append_flag_inj.1 hjoin
  rfl

theorem isForm_requests : Family.IsForm fun vs => ∃ status stream, vs = requestLabels status stream := by
  rintro _ _ ⟨m, b, rfl⟩ ⟨n, c, rfl⟩ h
  have hjoin : toString m ++ flag b = toString n ++ flag c := by
    simpa [Family.sameSeries, requestLabels, String.append_right_inj] using h
  obtain ⟨hstatus, rfl⟩ := append_flag_inj.1 hjoin
  rw [toString_inj.1 hstatus]

theorem isForm_durations : Family.IsForm fun vs => ∃ stream, vs = durationLabels stream := by
  rintro _ _ ⟨b, rfl⟩ ⟨c, rfl⟩ h
  have hjoin : "" ++ flag b = "" ++ flag c := by
    simpa [Family.sameSeries, durationLabels, String.append_right_inj] using h
  obtain ⟨-, rfl⟩ := append_flag_inj.1 hjoin
  rfl

theorem isForm_single : Family.IsForm fun vs => ∃ v, vs = [v] := by
  rintro _ _ ⟨v, rfl⟩ ⟨w, rfl⟩ h
  simpa [Family.sameSeries] using h

theorem name_beq (s t : AttemptState) : (s.name == t.name) = (s == t) := by
  cases s <;> cases t <;> decide

/-! ### Accounts -/

/-- What the metrics are asked for. -/
inductive Account where
  /-- The requests under way. -/
  | inflight
  /-- The answered requests with a status and a mode. -/
  | requests (status : Nat) (stream : Bool)
  | allRequests
  /-- The durations of requests that have been measured. -/
  | durations
  /-- The races in a mode that were won. -/
  | races (stream : Bool)
  | allRaces
  /-- The times to a first unit that have been measured in a mode. -/
  | firstUnits (stream : Bool)
  /-- The races that were lost for a reason. -/
  | failures (reason : String)
  /-- The attempts that won. -/
  | wonAttempts
  /-- The attempts in the races that were won. -/
  | allAttempts

/-- What the metrics say. -/
def balance (m : Metrics) : Account → Nat
  | .inflight => m.inflight
  | .requests status stream => m.requests.total (· == requestLabels status stream) id
  | .allRequests => m.requests.total (fun _ => true) id
  | .durations => m.durations.total (fun _ => true) (·.count)
  | .races stream => m.races.total (·.getLast? == some (flag stream)) id
  | .allRaces => m.races.total (fun _ => true) id
  | .firstUnits stream => m.firstUnits.total (· == [flag stream]) (·.count)
  | .failures reason => m.raceFailures.total (· == [reason]) id
  | .wonAttempts => m.raceAttempts.total (· == [AttemptState.won.name]) id
  | .allAttempts => m.raceAttempts.total (fun _ => true) id

/-- By how much an observation changes an account. -/
def Observation.credit : Observation → Account → Int
  | .request _ _ stream status _, .requests status' stream' =>
    if status = status' ∧ stream = stream' then 1 else 0
  | .request .., .allRequests | .request .., .durations => 1
  | .race _ stream _ _, .races stream' | .race _ stream _ _, .firstUnits stream' =>
    if stream = stream' then 1 else 0
  | .race .., .allRaces => 1
  | .race _ _ _ states, .wonAttempts => states.count .won
  | .race _ _ _ states, .allAttempts => states.length
  | .raceFailure reason, .failures reason' => if reason = reason' then 1 else 0
  | .enter, .inflight => 1
  | .leave, .inflight => -1
  | _, _ => 0

/-- The observation is of a request for an answer, if it is of any request. -/
def Observation.IsOfChat : Observation → Prop
  | .request path method _ _ _ => path = Endpoint.chat.path ∧ method = "POST"
  | .race .. | .raceFailure _ | .enter | .leave => True

/-- Metrics that have taken no other observations than those of requests for an answer. -/
structure IsOfChat (m : Metrics) : Prop where
  requests : m.requests.HasForm fun vs => ∃ status stream, vs = requestLabels status stream
  durations : m.durations.HasForm fun vs => ∃ stream, vs = durationLabels stream
  races : m.races.HasForm fun vs => ∃ winner stream, vs = raceLabels winner stream
  firstUnits : m.firstUnits.HasForm fun vs => ∃ v, vs = [v]
  raceFailures : m.raceFailures.HasForm fun vs => ∃ v, vs = [v]
  raceAttempts : m.raceAttempts.HasForm fun vs => ∃ v, vs = [v]

theorem isOfChat_empty : empty.IsOfChat := ⟨nofun, nofun, nofun, nofun, nofun, nofun⟩

theorem balance_empty (a : Account) : empty.balance a = 0 := by cases a <;> rfl

theorem hasForm_countAll {fam : Family Nat} (h : fam.HasForm fun vs => ∃ v, vs = [v])
    (states : List AttemptState) :
    (states.foldl (fun fam s => fam.count [s.name]) fam).HasForm fun vs => ∃ v, vs = [v] := by
  induction states generalizing fam with
  | nil => exact h
  | cons s states ih => exact ih (h.update ⟨s.name, rfl⟩ _ _)

theorem total_countAll {fam : Family Nat} (h : fam.HasForm fun vs => ∃ v, vs = [v])
    (wanted : List String → Bool) (states : List AttemptState) :
    (states.foldl (fun fam s => fam.count [s.name]) fam).total wanted id =
      fam.total wanted id + states.countP fun s => wanted [s.name] := by
  induction states generalizing fam with
  | nil => rfl
  | cons s states ih =>
    have hcount := Family.total_count isForm_single h ⟨s.name, rfl⟩ wanted
    have hnext : (fam.count [s.name]).HasForm fun vs => ∃ v, vs = [v] := h.update ⟨s.name, rfl⟩ _ _
    rw [List.foldl_cons, ih hnext, hcount, List.countP_cons]
    omega

theorem IsOfChat.observe {m : Metrics} (h : m.IsOfChat) {o : Observation} (ho : o.IsOfChat) :
    (m.observe o).IsOfChat := by
  cases o with
  | request path method stream status nanos =>
    obtain ⟨rfl, rfl⟩ := ho
    exact { h with
      requests := h.requests.update ⟨status, stream, rfl⟩ _ _
      durations := h.durations.update ⟨stream, rfl⟩ _ _ }
  | race winner stream nanos states =>
    exact { h with
      races := h.races.update ⟨winner, stream, rfl⟩ _ _
      firstUnits := h.firstUnits.update ⟨flag stream, rfl⟩ _ _
      raceAttempts := hasForm_countAll h.raceAttempts states }
  | raceFailure reason => exact { h with raceFailures := h.raceFailures.update ⟨reason, rfl⟩ _ _ }
  | enter | leave => exact { h with }

@[simp] private theorem cast_indicator (p : Prop) [Decidable p] :
    ((if p then 1 else 0 : Nat) : Int) = if p then 1 else 0 := by
  split <;> rfl

/-- An observation changes each account by its credit. -/
theorem IsOfChat.balance_observe {m : Metrics} (h : m.IsOfChat) {o : Observation} (ho : o.IsOfChat)
    (hleave : 0 ≤ (m.balance .inflight : Int) + o.credit .inflight) (a : Account) :
    ((m.observe o).balance a : Int) = m.balance a + o.credit a := by
  cases o with
  | request path method stream status nanos =>
    obtain ⟨rfl, rfl⟩ := ho
    have hobserve : m.observe (.request Endpoint.chat.path "POST" stream status nanos) = { m with
        requests := m.requests.count (requestLabels status stream)
        durations := m.durations.observe durationBounds (seconds nanos) (durationLabels stream) } := rfl
    have hrequests := Family.total_count isForm_requests h.requests ⟨status, stream, rfl⟩
    have hdurations := Family.total_observe isForm_durations h.durations ⟨stream, rfl⟩ durationBounds
      (seconds nanos)
    rw [hobserve]
    cases a <;> simp [balance, Observation.credit, hrequests, hdurations, requestLabels_inj]
  | race winner stream nanos states =>
    have hraces := Family.total_count isForm_races h.races ⟨winner, stream, rfl⟩
    have hunits := Family.total_observe isForm_single h.firstUnits ⟨flag stream, rfl⟩ firstUnitBounds
      (seconds nanos)
    have hattempts (wanted : List String → Bool) := total_countAll h.raceAttempts wanted states
    simp only [raceLabels] at hraces
    cases a <;>
      simp [Metrics.observe, balance, Observation.credit, hraces, hunits, hattempts, flag_inj, name_beq,
        List.count_eq_countP]
  | raceFailure reason =>
    have hfailures := Family.total_count isForm_single h.raceFailures ⟨reason, rfl⟩
    cases a <;> simp [Metrics.observe, balance, Observation.credit, hfailures]
  | enter => cases a <;> simp [Metrics.observe, balance, Observation.credit]
  | leave => cases a <;> simp [Metrics.observe, balance, Observation.credit] at hleave ⊢; omega

/-! ### Many observations -/

/-- Nobody leaves who has not entered, if `n` are in already. -/
def IsSolvent : Int → List Observation → Prop
  | _, [] => True
  | n, o :: os => 0 ≤ n + o.credit .inflight ∧ IsSolvent (n + o.credit .inflight) os

/-- The credit of some observations. -/
def credits (os : List Observation) (a : Account) : Int := (os.map (·.credit a)).sum

theorem IsOfChat.observe_all {m : Metrics} (h : m.IsOfChat) {os : List Observation}
    (hos : ∀ o ∈ os, o.IsOfChat) {n : Int} (hn : n ≤ m.balance .inflight) (hsolvent : IsSolvent n os) :
    (os.foldl Metrics.observe m).IsOfChat ∧
      ∀ a, ((os.foldl Metrics.observe m).balance a : Int) = m.balance a + credits os a := by
  induction os generalizing m n with
  | nil => exact ⟨h, fun a => by simp [credits]⟩
  | cons o os ih =>
    obtain ⟨ho, hos⟩ := List.forall_mem_cons.1 hos
    obtain ⟨hpos, hsolvent⟩ := hsolvent
    have hstep := h.balance_observe ho (Int.le_trans hpos (Int.add_le_add_right hn _))
    have hle : n + o.credit .inflight ≤ (m.observe o).balance .inflight := by
      rw [hstep]
      omega
    obtain ⟨hchat, hrest⟩ := ih (h.observe ho) hos hle hsolvent
    refine ⟨hchat, fun a => ?_⟩
    rw [List.foldl_cons, hrest, hstep]
    simp only [credits, List.map_cons, List.sum_cons]
    omega

end ChatRace.Metrics
