import Cnerium.Scheduler.Progress

/-!
# ループのスレッドだけが動くときの二つの写しの一致

`runLoop` は、ループのスレッドだけが動くときの `run()` を一つの関数として写したもので、`Sys` は同じ
コードをロックの区間ごとの一歩に分けて写したものである。ここでは二つが同じ `run()` を写していることを
言う：`Scheduler.run` のどの結末も、`run()` を呼ぶ前の `Sys` から、ループのスレッドの一歩だけで届く。
そのとき `q_`、`stop_requested_`、`running_`、ループの位置、実行したジョブの列が結末と一致し、ほかの
スレッドの位置は変わらない。取り出したジョブ `j.fn()` は `act j` のとおりに、積むたびに通知し、
求めるなら `stop()` を呼んでから、戻るか例外で抜ける。
-/

namespace Cnerium.Core

variable {J : Type}

/-- ループのスレッドの一歩：`run()` の中の一歩と、実行中のジョブの中の `post`・`stop`。 -/
def Act.byLoop : Act J → Bool
  | .call _ _ | .notify _ => false
  | _ => true

/-- 取り出したジョブが `r` のとおりに動く一歩の列。 -/
def JobRun.acts (r : JobRun J) : List (Act J) :=
  r.posts.flatMap (fun j => [.jobCall (.post j), .jobNotify]) ++
    (if r.stops then [.jobCall .stop, .jobNotify] else []) ++ [if r.throws then .throw else .finish]

/-- `runLoop` の結末に当たるループのスレッドの位置。使い切った繰り返しは、次の繰り返しの先頭にいる。 -/
def RunEnd.loopPc : RunEnd J → LoopPc J
  | .returned .. => .returned
  | .threw .. => .threw
  | .blocked .. => .waiting
  | .outOfFuel .. => .top

/-- ジョブの一歩の列には、ほかのスレッドの `post`・`stop` も通知もない。 -/
theorem JobRun.acts_byLoop (r : JobRun J) : ∀ a ∈ r.acts, a.byLoop = true := by
  intro a ha
  cases a <;> first | rfl | (simp only [JobRun.acts] at ha; split_ifs at ha <;> simp at ha)

/-- 実行中のジョブの `post`・`stop` 一回：ロックの下の書き込みと通知。 -/
theorem Sys.runOr_jobCall {s : Sys J} {j : J} (hl : s.loop = .exec j .idle) (c : Call J) :
    s.runOr [.jobCall c, .jobNotify] =
      { s with sched := c.apply s.sched, posted := s.posted ++ c.logged .loop } := by
  simp [Sys.runOr, Sys.next, hl]

theorem Sys.runOr_jobPosts {s : Sys J} {j : J} (hl : s.loop = .exec j .idle) (ps : List J) :
    s.runOr (ps.flatMap fun p => [.jobCall (.post p), .jobNotify]) =
      { s with sched := { s.sched with q := s.sched.q ++ ps },
               posted := s.posted ++ ps.map (Poster.loop, ·) } := by
  induction ps generalizing s with
  | nil => simp [Sys.runOr]
  | cons p ps ih =>
      rw [List.flatMap_cons, Sys.runOr_append, Sys.runOr_jobCall hl, ih]
      · simp [Call.apply, Call.logged, Scheduler.post]
      · exact hl

/-- 取り出したジョブ `j.fn()` の実行が残すもの：`afterJob` と同じ書き込みをして、戻れば次の繰り返しの
先頭へ、投げれば `run()` の外へ抜ける。 -/
theorem Sys.runOr_jobRun {s : Sys J} {j : J} (hl : s.loop = .exec j .idle) (r : JobRun J) :
    s.runOr r.acts =
      { s with sched := s.sched.afterJob r, loop := if r.throws then .threw else .top,
               posted := s.posted ++ r.posts.map (Poster.loop, ·) } := by
  rw [JobRun.acts, Sys.runOr_append, Sys.runOr_append, Sys.runOr_jobPosts hl]
  cases hs : r.stops
  · cases ht : r.throws <;> simp [Sys.runOr, Sys.next, hl, Scheduler.afterJob, hs, ht]
  · rw [if_pos rfl, Sys.runOr_jobCall]
    swap; · exact hl
    cases ht : r.throws <;> simp [Sys.runOr, Sys.next, hl, Scheduler.afterJob, Call.apply,
      Call.logged, Scheduler.stop, hs, ht]

/-- 繰り返しの先頭でキューの先頭 `j` を取り出し、`j.fn()` を `r` のとおりに実行する一歩の列。 -/
theorem Sys.runOr_check_pop {s : Sys J} (hl : s.loop = .top) {j : J} {q : List J}
    (hq : s.sched.q = j :: q) (r : JobRun J) :
    (s.runOr (.check :: r.acts)).sched = { s.sched with q := q }.afterJob r ∧
      (s.runOr (.check :: r.acts)).loop = (if r.throws then .threw else .top) ∧
      (s.runOr (.check :: r.acts)).dispatched = s.dispatched ++ [j] ∧
      (s.runOr (.check :: r.acts)).callers = s.callers := by
  have he : s.afterCheck = s.popped j q := by
    simp [Sys.afterCheck, s.sched.check_cons j q hq, Sys.popped]
  rw [Sys.runOr_cons (Sys.next_check_of (.inl hl)), he, Sys.runOr_jobRun rfl]
  exact ⟨rfl, rfl, rfl, rfl⟩

variable (act : J → JobRun J)

/-- 繰り返しの先頭にいるループは、ループのスレッドの一歩だけで `runLoop` の結末に着く。実行した
ジョブの列は、どちらも同じ `d₁` だけ伸びる。 -/
theorem Sys.runOr_runLoop (n : Nat) {s : Sys J} (hl : s.loop = .top) (d : List J) :
    ∃ acts : List (Act J), (∀ a ∈ acts, a.byLoop = true) ∧
      (s.runOr acts).sched = (runLoop act n s.sched d).state ∧
      (s.runOr acts).loop = (runLoop act n s.sched d).loopPc ∧
      (∃ d₁, (s.runOr acts).dispatched = s.dispatched ++ d₁ ∧
        (runLoop act n s.sched d).dispatched = d ++ d₁) ∧
      (s.runOr acts).callers = s.callers := by
  induction n generalizing s d with
  | zero =>
      exact ⟨[], by simp, rfl, hl, ⟨[], by simp [Sys.runOr, runLoop, RunEnd.dispatched]⟩, rfl⟩
  | succ n ih =>
      have hc := Sys.next_check_of (.inl hl)
      rcases s.afterCheck_cases with ⟨j, q, hq, -⟩ | ⟨hq, hs, he⟩ | ⟨hq, hs, he⟩
      · obtain ⟨h₁, h₂, h₃, h₄⟩ := Sys.runOr_check_pop hl hq (act j)
        have hset : ∀ a ∈ .check :: (act j).acts, a.byLoop = true :=
          List.forall_mem_cons.2 ⟨rfl, (act j).acts_byLoop⟩
        simp only [runLoop, s.sched.check_cons j q hq]
        cases ht : (act j).throws
        · simp only [ht, Bool.false_eq_true, if_false] at h₂ ⊢
          obtain ⟨acts, hset', hsch, hlp, ⟨d₁, hd, hd'⟩, hcl⟩ := ih h₂ (d ++ [j])
          rw [h₁] at hsch hlp hd'
          refine ⟨(.check :: (act j).acts) ++ acts, List.forall_mem_append.2 ⟨hset, hset'⟩, ?_⟩
          rw [Sys.runOr_append]
          exact ⟨hsch, hlp, ⟨j :: d₁, by simp [hd, h₃], by simpa using hd'⟩, hcl.trans h₄⟩
        · simp only [ht, if_true] at h₂ ⊢
          exact ⟨.check :: (act j).acts, hset, h₁, h₂, ⟨[j], h₃, rfl⟩, h₄⟩
      · refine ⟨[.check, .clear], by simp [Act.byLoop], ?_⟩
        rw [Sys.runOr_cons hc, he, Sys.runOr_cons (Sys.next_clear rfl)]
        simp [Sys.runOr, runLoop, s.sched.check_nil_stop hq hs, RunEnd.state, RunEnd.loopPc,
          RunEnd.dispatched]
      · refine ⟨[.check], by simp [Act.byLoop], ?_⟩
        rw [Sys.runOr_cons hc, he]
        simp [Sys.runOr, runLoop, s.sched.check_nil_run hq hs, RunEnd.state, RunEnd.loopPc,
          RunEnd.dispatched]

/-- `run()` を呼ぶ前の `Sys` からは、ループのスレッドの一歩だけで `Scheduler.run` のどの結末にも着く。
`q_`、`stop_requested_`、`running_`、ループの位置が結末と一致し、実行したジョブの列は結末の列だけ伸び、
ほかのスレッドの位置は変わらない。 -/
theorem loop_thread_simulates_run (n : Nat) {s : Sys J} (hl : s.loop = .start) :
    ∃ acts : List (Act J), (∀ a ∈ acts, a.byLoop = true) ∧
      (s.runOr acts).sched = (s.sched.run act n).state ∧
      (s.runOr acts).loop = (s.sched.run act n).loopPc ∧
      (s.runOr acts).dispatched = s.dispatched ++ (s.sched.run act n).dispatched ∧
      (s.runOr acts).callers = s.callers := by
  have hs : s.next .start =
      some { s with sched := { s.sched with running := true }, loop := .top } := by
    simp [Sys.next, hl]
  obtain ⟨acts, hset, hsch, hlp, ⟨d₁, hd, hd'⟩, hcl⟩ :=
    Sys.runOr_runLoop act n (s := { s with sched := { s.sched with running := true }, loop := .top })
      rfl []
  refine ⟨.start :: acts, List.forall_mem_cons.2 ⟨rfl, hset⟩, ?_⟩
  rw [Sys.runOr_cons hs]
  exact ⟨hsch, hlp, by simpa [Scheduler.run, hd'] using hd, hcl⟩

/-- 二つのスレッドが積み、三つ目が停止を求めた後で `run()` が呼ばれる。最初のジョブはもう一つ積み、
`run()` は三つを順に実行して戻る。 -/
theorem loop_thread_simulates_run_stopped :
    let s := (Sys.init : Sys Nat).runOr [.call 0 (.post 1), .call 1 (.post 2), .call 2 .stop]
    let act : Nat → JobRun Nat := fun j => ⟨if j = 1 then [3] else [], false, false⟩
    s.loop = .start ∧ (s.sched.run act 5).dispatched = [1, 2, 3] ∧
    (s.sched.run act 5).loopPc = .returned ∧
    ∃ acts : List (Act Nat), (∀ a ∈ acts, a.byLoop = true) ∧
      (s.runOr acts).sched = (s.sched.run act 5).state ∧
      (s.runOr acts).loop = (s.sched.run act 5).loopPc ∧
      (s.runOr acts).dispatched = s.dispatched ++ (s.sched.run act 5).dispatched ∧
      (s.runOr acts).callers = s.callers :=
  ⟨by decide, by decide, by decide, loop_thread_simulates_run _ 5 (by decide)⟩

end Cnerium.Core
