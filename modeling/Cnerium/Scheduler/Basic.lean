import Mathlib.Data.List.Basic

/-!
# スケジューラの状態と `run()` の一回の繰り返し

`scheduler.hpp`（`task.hpp` に同梱）の `scheduler` を写す。ジョブは型 `J` の値とし、キュー `q_`、
`stop_requested_`、`running_` の三つを状態に持つ。`post` と `stop` はロック `m_` の下での書き込み、
`run()` のロックの下の区間は `Scheduler.check` である。

ロックを持たずに動く呼び出し側（`run()` を回すループのスレッド一つだけのとき）の振る舞いは
`Scheduler.runLoop` で、ジョブの中身は `JobRun`（投げるジョブ、積むジョブ、`stop` を呼ぶジョブ）で表す。
-/

namespace Cnerium.Core

/-- `scheduler` のフィールド `q_`、`stop_requested_`、`running_`。 -/
structure Scheduler (J : Type) where
  q : List J
  stopRequested : Bool
  running : Bool
deriving DecidableEq, Repr

variable {J : Type}

/-- 作られたばかりのスケジューラ。 -/
def Scheduler.init : Scheduler J := ⟨[], false, false⟩

/-- `post` のロックの下の書き込み：`q_.emplace_back(job)`。 -/
def Scheduler.post (s : Scheduler J) (j : J) : Scheduler J := { s with q := s.q ++ [j] }

/-- `stop` のロックの下の書き込み：`stop_requested_ = true`。 -/
def Scheduler.stop (s : Scheduler J) : Scheduler J := { s with stopRequested := true }

/-- `cv_.wait` の述語 `stop_requested_ || !q_.empty()`。 -/
def Scheduler.ready (s : Scheduler J) : Bool := s.stopRequested || !s.q.isEmpty

/-- ロックの下の区間で `run()` が次にすること。 -/
inductive Check (J : Type)
  /-- 述語が偽：ロックを手放して `cv_` で待つ。 -/
  | wait
  /-- 先頭のジョブを取り出した。ロックを手放してから実行する。 -/
  | pop (j : J) (s : Scheduler J)
  /-- キューが空で停止が求められている：`break`。 -/
  | exit
  /-- 述語が真なのに取り出すものも停止もない。空のジョブで次の繰り返しへ進む。 -/
  | skip
deriving Repr

/-- `run()` のロックの下の区間：`cv_.wait(lock, pred)` が述語を評価した後の分岐。 -/
def Scheduler.check (s : Scheduler J) : Check J :=
  if s.ready then
    match s.q with
    | j :: q => .pop j { s with q := q }
    | [] => if s.stopRequested then .exit else .skip
  else .wait

@[simp] theorem Scheduler.post_q (s : Scheduler J) (j : J) : (s.post j).q = s.q ++ [j] := rfl
@[simp] theorem Scheduler.post_stopRequested (s : Scheduler J) (j : J) :
    (s.post j).stopRequested = s.stopRequested := rfl
@[simp] theorem Scheduler.post_running (s : Scheduler J) (j : J) :
    (s.post j).running = s.running := rfl
@[simp] theorem Scheduler.stop_q (s : Scheduler J) : s.stop.q = s.q := rfl
@[simp] theorem Scheduler.stop_stopRequested (s : Scheduler J) : s.stop.stopRequested = true := rfl
@[simp] theorem Scheduler.stop_running (s : Scheduler J) : s.stop.running = s.running := rfl

/-- キューに先頭があれば取り出す。 -/
@[simp] theorem Scheduler.check_cons (s : Scheduler J) (j : J) (q : List J) (hq : s.q = j :: q) :
    s.check = .pop j { s with q := q } := by
  simp [Scheduler.check, Scheduler.ready, hq]

/-- キューが空で停止が求められていれば `break` する。 -/
@[simp] theorem Scheduler.check_nil_stop (s : Scheduler J) (hq : s.q = [])
    (hs : s.stopRequested = true) : s.check = .exit := by
  simp [Scheduler.check, Scheduler.ready, hq, hs]

/-- キューが空で停止が求められていなければ待つ。 -/
@[simp] theorem Scheduler.check_nil_run (s : Scheduler J) (hq : s.q = [])
    (hs : s.stopRequested = false) : s.check = .wait := by
  simp [Scheduler.check, Scheduler.ready, hq, hs]

/-- `check` の三つの場合。述語が真なら空振り（`skip`）はない。 -/
theorem Scheduler.check_cases (s : Scheduler J) :
    (∃ j q, s.q = j :: q ∧ s.check = .pop j { s with q := q }) ∨
    (s.q = [] ∧ s.stopRequested = true ∧ s.check = .exit) ∨
    (s.q = [] ∧ s.stopRequested = false ∧ s.check = .wait) := by
  rcases hq : s.q with _ | ⟨j, q⟩
  · cases hs : s.stopRequested
    · exact .inr (.inr ⟨rfl, rfl, s.check_nil_run hq hs⟩)
    · exact .inr (.inl ⟨rfl, rfl, s.check_nil_stop hq hs⟩)
  · exact .inl ⟨j, q, rfl, s.check_cons j q hq⟩

/-! ## ループのスレッドだけが動くときの `run()` -/

/-- 取り出したジョブ `j.fn()` の実行：途中で積むジョブ、`stop()` を呼ぶか、例外で抜けるか。 -/
structure JobRun (J : Type) where
  posts : List J
  stops : Bool
  throws : Bool

/-- ジョブの実行が状態に残すもの：積んだジョブと停止の要求。 -/
def Scheduler.afterJob (s : Scheduler J) (r : JobRun J) : Scheduler J :=
  { s with q := s.q ++ r.posts, stopRequested := s.stopRequested || r.stops }

/-- ループのスレッドだけが動くときの `run()` の結末と、それまでに実行したジョブの列。 -/
inductive RunEnd (J : Type)
  /-- `break` してから `running_ = false` を書いて戻った。 -/
  | returned (s : Scheduler J) (dispatched : List J)
  /-- ジョブの例外が `run()` の外へ抜けた。 -/
  | threw (s : Scheduler J) (dispatched : List J)
  /-- `cv_.wait` で、起こす者のいないまま待ち続ける。 -/
  | blocked (s : Scheduler J) (dispatched : List J)
  /-- 与えた繰り返しの回数を使い切った。 -/
  | outOfFuel (s : Scheduler J) (dispatched : List J)
deriving Repr

/-- `run()` の `while (true)` の繰り返し。`act j` は取り出したジョブ `j` の実行、`d` は実行済みのジョブ。 -/
def runLoop (act : J → JobRun J) : Nat → Scheduler J → List J → RunEnd J
  | 0, s, d => .outOfFuel s d
  | n + 1, s, d =>
      match s.check with
      | .wait => .blocked s d
      | .pop j s' =>
          if (act j).throws then .threw (s'.afterJob (act j)) (d ++ [j])
          else runLoop act n (s'.afterJob (act j)) (d ++ [j])
      | .exit => .returned { s with running := false } d
      | .skip => runLoop act n s d

/-- `scheduler::run`：`running_ = true` を書いてから繰り返す。 -/
def Scheduler.run (act : J → JobRun J) (fuel : Nat) (s : Scheduler J) : RunEnd J :=
  runLoop act fuel { s with running := true } []

@[simp] theorem Scheduler.afterJob_q (s : Scheduler J) (r : JobRun J) :
    (s.afterJob r).q = s.q ++ r.posts := rfl
@[simp] theorem Scheduler.afterJob_running (s : Scheduler J) (r : JobRun J) :
    (s.afterJob r).running = s.running := rfl
@[simp] theorem Scheduler.afterJob_stopRequested (s : Scheduler J) (r : JobRun J) :
    (s.afterJob r).stopRequested = (s.stopRequested || r.stops) := rfl

/-- 結末の状態。 -/
def RunEnd.state : RunEnd J → Scheduler J
  | .returned s _ | .threw s _ | .blocked s _ | .outOfFuel s _ => s

/-- 結末までに実行したジョブ。 -/
def RunEnd.dispatched : RunEnd J → List J
  | .returned _ d | .threw _ d | .blocked _ d | .outOfFuel _ d => d

/-- ジョブの列 `d` が実行中に積んだジョブを順に並べたもの。 -/
def postsOf (act : J → JobRun J) (d : List J) : List J := d.flatMap fun j => (act j).posts

@[simp] theorem postsOf_nil (act : J → JobRun J) : postsOf act [] = [] := rfl
@[simp] theorem postsOf_append (act : J → JobRun J) (d e : List J) :
    postsOf act (d ++ e) = postsOf act d ++ postsOf act e := by
  simp [postsOf]
@[simp] theorem postsOf_singleton (act : J → JobRun J) (j : J) :
    postsOf act [j] = (act j).posts := by
  simp [postsOf]

variable (act : J → JobRun J)

/-- 先入れ先出し：実行したジョブの後にキューを並べると、初めのキューの後に実行中に積まれたジョブを
並べたものになる。 -/
theorem runLoop_fifo (n : Nat) (s : Scheduler J) (d : List J) :
    ∃ d₁, (runLoop act n s d).dispatched = d ++ d₁ ∧
      d₁ ++ (runLoop act n s d).state.q = s.q ++ postsOf act d₁ := by
  induction n generalizing s d with
  | zero => exact ⟨[], by simp [runLoop, RunEnd.dispatched, RunEnd.state]⟩
  | succ n ih =>
      rcases s.check_cases with ⟨j, q, hq, hc⟩ | ⟨hq, -, hc⟩ | ⟨hq, -, hc⟩
      · simp only [runLoop, hc]
        split
        · exact ⟨[j], by simp [RunEnd.dispatched, RunEnd.state, hq]⟩
        · obtain ⟨d₁, hd, hq₁⟩ := ih ({ s with q := q }.afterJob (act j)) (d ++ [j])
          refine ⟨j :: d₁, by simp [hd], ?_⟩
          simp only [Scheduler.afterJob_q] at hq₁
          simp [hq, ← List.append_assoc, hq₁, postsOf]
      · exact ⟨[], by simp [runLoop, hc, RunEnd.dispatched, RunEnd.state]⟩
      · exact ⟨[], by simp [runLoop, hc, RunEnd.dispatched, RunEnd.state]⟩

/-- 例外で抜けるのは、実行したジョブのうち最後の一つが投げ、それより前のジョブが投げなかったときで、
`running_` はそのまま残る。 -/
theorem runLoop_threw {n : Nat} {s s' : Scheduler J} {d d' : List J}
    (h : runLoop act n s d = .threw s' d') :
    ∃ d₁ j, d' = d ++ d₁ ++ [j] ∧ (act j).throws = true ∧
      (∀ k ∈ d₁, (act k).throws = false) ∧ s'.running = s.running := by
  induction n generalizing s d with
  | zero => cases h
  | succ n ih =>
      rcases s.check_cases with ⟨j, q, -, hc⟩ | ⟨-, -, hc⟩ | ⟨-, -, hc⟩
      · simp only [runLoop, hc] at h
        split at h
        · cases h; exact ⟨[], j, by simp, ‹_›, by simp, rfl⟩
        · obtain ⟨d₁, k, rfl, hk, hd₁, hr⟩ := ih h
          refine ⟨j :: d₁, k, by simp, hk, ?_, hr⟩
          simpa [*] using hd₁
      · simp [runLoop, hc] at h
      · simp [runLoop, hc] at h

/-- 停止が求められ、キューのジョブが何も積まないとき、キューの先頭から順に実行し、投げるジョブが
なければキューを空にして戻る。 -/
theorem runLoop_drain (s : Scheduler J) (d : List J) (hs : s.stopRequested = true)
    (hposts : ∀ j ∈ s.q, (act j).posts = []) (hthrow : ∀ j ∈ s.q, (act j).throws = false)
    (n : Nat) (hn : s.q.length < n) :
    runLoop act n s d = .returned { s with q := [], running := false } (d ++ s.q) := by
  generalize h : s.q = q at *
  induction q generalizing s d n with
  | nil =>
      obtain ⟨n, rfl⟩ := Nat.exists_eq_add_of_lt hn
      simp [runLoop, s.check_nil_stop h hs, h]
  | cons j q ih =>
      obtain ⟨n, rfl⟩ := Nat.exists_eq_add_of_lt hn
      simp only [List.mem_cons, forall_eq_or_imp] at hposts hthrow
      simp only [runLoop, s.check_cons j q h, hthrow.1, Bool.false_eq_true, if_false]
      rw [ih _ _ (by simp [hs]) _ (by simp [hposts.1]) hposts.2 hthrow.2 (by simpa using hn)]
      simp [hposts.1, hs]

/-- 同じ条件で、途中のジョブ `j` が最初に投げるなら、`j` までを実行して例外で抜け、キューには
`j` より後のジョブが順に残る。 -/
theorem runLoop_drain_throw (s : Scheduler J) (d : List J) (hs : s.stopRequested = true)
    (pre post : List J) (j : J) (hq : s.q = pre ++ j :: post)
    (hposts : ∀ k ∈ s.q, (act k).posts = []) (hpre : ∀ k ∈ pre, (act k).throws = false)
    (hj : (act j).throws = true) (n : Nat) (hn : pre.length < n) :
    runLoop act n s d = .threw { s with q := post } (d ++ pre ++ [j]) := by
  induction pre generalizing s d n with
  | nil =>
      obtain ⟨n, rfl⟩ := Nat.exists_eq_add_of_lt hn
      have hjp : (act j).posts = [] := hposts j (by simp [hq])
      simp [runLoop, s.check_cons j post hq, hj, Scheduler.afterJob, hjp, hs]
  | cons k pre ih =>
      obtain ⟨n, rfl⟩ := Nat.exists_eq_add_of_lt hn
      have hkp : (act k).posts = [] := hposts k (by simp [hq])
      have hk : (act k).throws = false := hpre k (by simp)
      simp only [List.cons_append] at hq
      simp only [runLoop, s.check_cons k _ hq, hk, Bool.false_eq_true, if_false]
      rw [ih _ _ (by simp [hs]) (by simp [hkp]) (fun x hx => hposts x (by simp_all))
        (fun x hx => hpre x (.tail _ hx)) _ (by simpa using hn)]
      simp [Scheduler.afterJob, hkp, hs]

end Cnerium.Core
