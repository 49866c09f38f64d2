import Cnerium.Scheduler.Threads

/-!
# スケジューラの性質

交互実行で届くどの状態でも成り立つ不変条件 `Sys.Inv` を一つにまとめ、そこから先入れ先出し、
起床が失われないこと、`break` の条件を導く。ループのスレッドだけが動くときの `run()` については
`Cnerium.Scheduler.Basic` の `runLoop` の補題から導く。
-/

namespace Cnerium.Core

variable {J : Type}

/-- 終わりに向かう一歩：`break` するか、`break` の後の状態のまま記録だけが伸びるか。 -/
theorem Sys.next_exited {s s' : Sys J} {a : Act J} (h : s.next a = some s')
    (he : s'.loop = .exited ∨ s'.loop = .returned) :
    (a = .check ∧ s.sched.q = [] ∧ s.sched.stopRequested = true ∧
      s' = { s with loop := .exited, epoch := s.epoch + 1, exitAt := s.posted.length }) ∨
    ((s.loop = .exited ∨ s.loop = .returned) ∧ s'.dispatched = s.dispatched ∧
      s'.exitAt = s.exitAt ∧ ∃ e, s'.posted = s.posted ++ e) := by
  cases a with
  | call t c =>
      cases ht : s.callers t <;> simp [Sys.next, ht] at h
      subst h; exact .inr ⟨he, rfl, rfl, _, rfl⟩
  | notify t =>
      cases ht : s.callers t <;> simp [Sys.next, ht] at h
      subst h
      refine .inr ⟨?_, rfl, rfl, [], by simp⟩
      cases hl : s.loop <;> simp_all [LoopPc.wake]
  | check =>
      have h' : s.afterCheck = s' := by
        cases hl : s.loop <;> simp [Sys.next, hl] at h <;> exact h
      subst h'
      rcases s.afterCheck_cases with ⟨j, q, -, hc⟩ | ⟨hq, hs, hc⟩ | ⟨-, -, hc⟩
      · simp [hc, Sys.popped] at he
      · exact .inl ⟨rfl, hq, hs, hc⟩
      · simp [hc] at he
  | clear =>
      cases hl : s.loop <;> simp [Sys.next, hl] at h
      subst h; exact .inr ⟨.inl rfl, rfl, rfl, [], by simp⟩
  | _ =>
      rcases hl : s.loop with _ | _ | _ | _ | ⟨j, _ | ⟨_, _⟩⟩ | _ | _ | _ <;> simp [Sys.next, hl] at h
      all_goals subst h; simp at he

/-- 届く状態の不変条件。 -/
structure Sys.Inv (s : Sys J) : Prop where
  /-- 実行したジョブの後にキューを並べると、ロックを取った順に積まれたジョブになる。 -/
  fifo : s.dispatched ++ s.sched.q = s.posted.map Prod.snd
  /-- ループが待っていて述語が真なら、述語を評価した後に書き込み、まだ通知していないスレッドがいる。 -/
  wake : s.loop = .waiting → (s.sched.q = [] ∧ s.sched.stopRequested = false) ∨
    ∃ t all, s.callers t = .notifying all s.epoch
  exitAt_le : s.exitAt ≤ s.posted.length
  /-- `break` の後、実行したジョブは `break` までに積まれたジョブそのものである。 -/
  drained : s.loop = .exited ∨ s.loop = .returned →
    s.dispatched = (s.posted.take s.exitAt).map Prod.snd

theorem Sys.inv_init : (Sys.init : Sys J).Inv where
  fifo := rfl
  wake := fun h => by cases h
  exitAt_le := le_rfl
  drained := fun h => by rcases h with h | h <;> cases h

theorem Sys.Inv.next {s s' : Sys J} {a : Act J} (hi : s.Inv) (h : s.next a = some s') :
    s'.Inv := by
  have fifo : s'.dispatched ++ s'.sched.q = s'.posted.map Prod.snd := by
    rcases Sys.next_queue h with ⟨_, _, hq, -, hp, hd⟩ | ⟨_, hq, -, hp, hd⟩ | ⟨hq, -, hp, hd⟩
    · simp [hq, hp, hd, ← hi.fifo]
    · simp [hp, hd, ← hi.fifo, hq]
    · simp [hq, hp, hd, hi.fifo]
  have hlen : s.posted.length ≤ s'.posted.length := by
    rcases Sys.next_queue h with ⟨_, _, -, -, hp, -⟩ | ⟨_, -, -, hp, -⟩ | ⟨-, -, hp, -⟩ <;> simp [hp]
  have exitAt_le : s'.exitAt ≤ s'.posted.length := by
    rcases Sys.next_exitAt h with he | he <;> rw [he]
    · exact hi.exitAt_le.trans hlen
    · exact hlen
  refine ⟨fifo, fun hw => ?_, exitAt_le, fun he => ?_⟩
  · rcases Sys.next_waiting h hw with ⟨-, hq, hs⟩ | ⟨t, c, -, -, ht⟩
    · exact .inl ⟨hq, hs⟩
    · exact .inr ⟨t, _, ht⟩
  · rcases Sys.next_exited h he with ⟨-, hq, -, rfl⟩ | ⟨he', hd, hx, e, hp⟩
    · simpa [hq] using hi.fifo
    · rw [hd, hx, hp, List.take_append_of_le_length hi.exitAt_le]
      exact hi.drained he'

theorem Reachable.inv {s : Sys J} (hs : Reachable s) : s.Inv := by
  induction hs with
  | init => exact Sys.inv_init
  | step _ _ h ih => exact ih.next h

/-! ## 先入れ先出し -/

/-- どの交互実行でも、`run()` が実行したジョブの列の後に `q_` を並べると、ロックを取った順に
積まれたジョブの列になる。ジョブは失われず、二度実行されず、積まれた順に実行される。 -/
theorem dispatched_then_queued_eq_posted {s : Sys J} (hs : Reachable s) :
    s.dispatched ++ s.sched.q = s.posted.map Prod.snd :=
  hs.inv.fifo

/-- 二つのスレッドとジョブの中から積み、ループが一つ実行したところ。 -/
theorem dispatched_then_queued_eq_posted_run :
    let s := (Sys.init : Sys Nat).runOr
      [.call 0 (.post 1), .start, .call 1 (.post 2), .check, .jobCall (.post 3), .notify 0]
    s.dispatched ++ s.sched.q = s.posted.map Prod.snd :=
  dispatched_then_queued_eq_posted (Reachable.init.runOr _)

/-! ## 起床が失われないこと -/

/-- ループが `cv_.wait` で待っているのに `q_` が空でないか停止が求められているなら、最後に述語を
評価した後で（`epoch` が同じ）書き込み、まだ通知していないスレッドがいて、その通知はループを起こす。 -/
theorem waiting_loop_has_pending_notifier {s : Sys J} (hs : Reachable s) (hw : s.loop = .waiting)
    (hpred : s.sched.q ≠ [] ∨ s.sched.stopRequested = true) :
    ∃ t all, s.callers t = .notifying all s.epoch ∧
      ∃ s', s.next (.notify t) = some s' ∧ s'.loop = .woken := by
  rcases hs.inv.wake hw with ⟨hq, hstop⟩ | ⟨t, all, ht⟩
  · rcases hpred with h | h
    · exact absurd hq h
    · simp [hstop] at h
  · exact ⟨t, all, ht, { s with loop := .woken, callers := Function.update s.callers t .idle },
      by simp [Sys.next, ht, hw, LoopPc.wake], rfl⟩

/-- 待っているループの後に積まれたジョブ：積んだスレッドはまだ通知していない。 -/
theorem waiting_loop_has_pending_notifier_run :
    let s := (Sys.init : Sys Nat).runOr [.start, .check, .call 0 (.post 5)]
    s.loop = .waiting ∧ (s.sched.q ≠ [] ∨ s.sched.stopRequested = true) ∧
      ∃ t all, s.callers t = .notifying all s.epoch ∧
        ∃ s', s.next (.notify t) = some s' ∧ s'.loop = .woken :=
  ⟨by decide, .inl (by decide),
    waiting_loop_has_pending_notifier (Reachable.init.runOr _) (by decide) (.inl (by decide))⟩

/-! ## `run()` の終わり -/

/-- 例外で抜けた `run()` は `running_` を `true` のまま残す。 -/
theorem Scheduler.run_threw_running {act : J → JobRun J} {n : Nat} {s s' : Scheduler J} {d : List J}
    (h : s.run act n = .threw s' d) : s'.running = true := by
  obtain ⟨-, -, -, -, -, hr⟩ := runLoop_threw act h
  exact hr

/-- 例外で抜けた `run()` は、最初に投げたジョブまでを順に実行し、残りを積まれた順に `q_` に残す。 -/
theorem Scheduler.run_threw {act : J → JobRun J} {n : Nat} {s s' : Scheduler J} {d : List J}
    (h : s.run act n = .threw s' d) :
    ∃ d₁ j, d = d₁ ++ [j] ∧ (act j).throws = true ∧ (∀ k ∈ d₁, (act k).throws = false) ∧
      d ++ s'.q = s.q ++ postsOf act d := by
  obtain ⟨d₁, j, hd, hj, hd₁, -⟩ := runLoop_threw act h
  obtain ⟨d', hd', hq⟩ := runLoop_fifo act n { s with running := true } []
  simp only [Scheduler.run] at h
  rw [h] at hd' hq
  simp only [RunEnd.dispatched, List.nil_append] at hd'
  simp only [List.nil_append] at hd
  subst hd'
  exact ⟨d₁, j, hd, hj, hd₁, by simpa [RunEnd.state] using hq⟩

/-- 一つだけ積まれた投げるジョブ：`run()` は例外で抜け、`running_`（`is_running()`）は `true` のまま。 -/
theorem run_throwing_job_leaves_running :
    Scheduler.run (fun (_ : Unit) => ⟨[], false, true⟩) 1 ⟨[()], false, false⟩ =
      .threw ⟨[], false, true⟩ [()] :=
  rfl

/-- `break` はキューが空で停止が求められているときに限り、そのとき `break` までに積まれたジョブは
すべて一度ずつ実行されている。`stop_requested_` は下りない。戻った `run()` は `break` までに積まれた
ジョブだけを実行している。ループのスレッドだけが動くとき、停止が求められ、キューのジョブが何も
積まなければ、投げるジョブがない限り `|q_|` 個を実行して戻る。最初に投げるジョブがあれば、そこまでを
実行して例外で抜け、後ろのジョブを `q_` に残す。`j.fn()` を囲む `try` がないためで、`run()` と `stop()` の
注釈（キューが空になるまで実行してから戻る）とはここが食い違う。 -/
theorem run_exit_laws :
    (∀ {s s' : Sys J}, Reachable s → s.next .check = some s' → s'.loop = .exited →
      s.sched.q = [] ∧ s.sched.stopRequested = true ∧ s'.dispatched = s'.posted.map Prod.snd) ∧
    (∀ {s s' : Sys J} (a : Act J), s.next a = some s' → s.sched.stopRequested = true →
      s'.sched.stopRequested = true) ∧
    (∀ {s : Sys J}, Reachable s → s.loop = .returned →
      s.dispatched = (s.posted.take s.exitAt).map Prod.snd) ∧
    (∀ (act : J → JobRun J) (s : Scheduler J), s.stopRequested = true →
      (∀ j ∈ s.q, (act j).posts = []) → (∀ j ∈ s.q, (act j).throws = false) →
      ∀ n, s.q.length < n → s.run act n = .returned { s with q := [], running := false } s.q) ∧
    (∀ (act : J → JobRun J) (s : Scheduler J) (pre post : List J) (j : J),
      s.stopRequested = true → s.q = pre ++ j :: post → (∀ k ∈ s.q, (act k).posts = []) →
      (∀ k ∈ pre, (act k).throws = false) → (act j).throws = true →
      ∀ n, pre.length < n → s.run act n = .threw { s with q := post, running := true } (pre ++ [j])) := by
  refine ⟨fun hs h he => ?_, fun a h => Sys.next_stopRequested h, fun hs hr => hs.inv.drained (.inr hr),
    fun act s hstop hposts hthrow n hn => ?_, fun act s pre post j hstop hq hposts hpre hj n hn => ?_⟩
  · obtain ⟨-, rfl⟩ := Sys.next_check h
    rename_i s
    rcases s.afterCheck_cases with ⟨j, q, -, hc⟩ | ⟨hq, hstop, hc⟩ | ⟨-, -, hc⟩ <;> rw [hc] at he ⊢
    · simp [Sys.popped] at he
    · exact ⟨hq, hstop, by simpa [hq] using hs.inv.fifo⟩
    · simp at he
  · simpa using runLoop_drain act { s with running := true } [] hstop hposts hthrow n hn
  · simpa using runLoop_drain_throw act { s with running := true } [] hstop pre post j hq hposts hpre hj n hn

/-- `post(job1)`（投げる）、`post(job2)`、`stop()` の後の `run()` は、`job2` を残して例外で抜ける。 -/
example : Scheduler.run (fun (j : Nat) => ⟨[], false, j == 1⟩) 3 ⟨[1, 2], true, false⟩ =
    .threw ⟨[2], true, true⟩ [1] := rfl

end Cnerium.Core
