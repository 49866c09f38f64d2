import Cnerium.Scheduler.Theorems

/-!
# キューは空になるまで進む

`waiting_loop_has_pending_notifier` は、待っているループに起こす者がいることを言う。ここではその先を
言う：`break` の前のループは、書き込みを終えたスレッドの通知とループのスレッド自身の一歩だけで、
キューのジョブを積まれた順にすべて実行し、停止が求められていれば `run()` から戻り、そうでなければ空の
キューで待つところまで進める。見かけ上の起床にも新たな `post` にも頼らず、取り出したジョブは例外を
投げずに戻るとする。
-/

namespace Cnerium.Core

variable {J : Type}

/-- 新たに積まず、見かけ上の起床にもジョブの例外にも頼らない一歩：ループのスレッドの一歩と、
書き込みを終えたスレッドの通知。 -/
def Act.settles : Act J → Bool
  | .check | .finish | .jobNotify | .notify _ | .clear => true
  | _ => false

/-- `run()` を呼んだ後、`break` の前のループの位置。 -/
def LoopPc.live : LoopPc J → Bool
  | .top | .waiting | .woken | .exec _ _ => true
  | _ => false

theorem Sys.runOr_append (s : Sys J) (as bs : List (Act J)) :
    s.runOr (as ++ bs) = (s.runOr as).runOr bs := by
  induction as generalizing s with
  | nil => rfl
  | cons a as ih => exact ih _

theorem Sys.runOr_cons {s s' : Sys J} {a : Act J} (h : s.next a = some s') (as : List (Act J)) :
    s.runOr (a :: as) = s'.runOr as := by
  simp [Sys.runOr, h]

theorem Act.settles_append {as bs : List (Act J)} (ha : ∀ a ∈ as, a.settles = true)
    (hb : ∀ a ∈ bs, a.settles = true) : ∀ a ∈ as ++ bs, a.settles = true := by
  intro a h
  rcases List.mem_append.1 h with h | h
  exacts [ha a h, hb a h]

theorem Sys.next_check_of {s : Sys J} (h : s.loop = .top ∨ s.loop = .woken) :
    s.next .check = some s.afterCheck := by
  rcases h with h | h <;> simp [Sys.next, h]

theorem Sys.next_clear {s : Sys J} (h : s.loop = .exited) :
    s.next .clear = some { s with sched := { s.sched with running := false }, loop := .returned } := by
  simp [Sys.next, h]

/-- `break` の前のループは、積まずに、述語を評価する位置 `top` か `woken` に着ける。待っているなら、
述語が真であれば通知する者がいる。キューと記録は変わらない。 -/
theorem Sys.Inv.reach_check {s : Sys J} (hi : s.Inv) (hl : s.loop.live = true)
    (hw : s.loop = .waiting → s.sched.q ≠ [] ∨ s.sched.stopRequested = true) :
    ∃ acts : List (Act J), (∀ a ∈ acts, a.settles = true) ∧
      ((s.runOr acts).loop = .top ∨ (s.runOr acts).loop = .woken) ∧
      (s.runOr acts).sched = s.sched ∧ (s.runOr acts).dispatched = s.dispatched := by
  rcases hloop : s.loop with _ | _ | _ | _ | ⟨j, _ | ⟨all, seen⟩⟩ | _ | _ | _ <;>
    simp only [LoopPc.live, hloop, Bool.false_eq_true] at hl
  case top => exact ⟨[], by simp, .inl hloop, rfl, rfl⟩
  case woken => exact ⟨[], by simp, .inr hloop, rfl, rfl⟩
  case waiting =>
    rcases hi.wake hloop with ⟨hq, hs⟩ | ⟨t, all, ht⟩
    · rcases hw hloop with h | h <;> simp [hq, hs] at h
    · have hn : s.next (.notify t) =
          some { s with loop := s.loop.wake, callers := Function.update s.callers t .idle } := by
        simp [Sys.next, ht]
      refine ⟨[.notify t], by simp [Act.settles], ?_⟩
      rw [Sys.runOr_cons hn]
      simp [Sys.runOr, hloop, LoopPc.wake]
  case exec.idle =>
    refine ⟨[.finish], by simp [Act.settles], ?_⟩
    simp [Sys.runOr, Sys.next, hloop]
  case exec.notifying =>
    refine ⟨[.jobNotify, .finish], by simp [Act.settles], ?_⟩
    simp [Sys.runOr, Sys.next, hloop]

/-- `break` の前のループは、書き込みを終えたスレッドの通知とループのスレッドの一歩だけで、キューの
ジョブをすべて積まれた順に実行できる。そのあとループは、停止が求められていれば `run()` から戻り、
そうでなければ空のキューで待つ。 -/
theorem run_drains_queue {s : Sys J} (hs : Reachable s) (hl : s.loop.live = true) :
    ∃ acts : List (Act J), (∀ a ∈ acts, a.settles = true) ∧
      (s.runOr acts).sched.q = [] ∧
      (s.runOr acts).dispatched = s.dispatched ++ s.sched.q ∧
      (s.runOr acts).loop = if s.sched.stopRequested then .returned else .waiting := by
  suffices ∀ (q : List J) (s : Sys J), Reachable s → s.loop.live = true → s.sched.q = q →
      ∃ acts : List (Act J), (∀ a ∈ acts, a.settles = true) ∧ (s.runOr acts).sched.q = [] ∧
        (s.runOr acts).dispatched = s.dispatched ++ q ∧
        (s.runOr acts).loop = if s.sched.stopRequested then .returned else .waiting from
    this _ s hs hl rfl
  intro q
  induction q with
  | nil =>
      intro s hs hl hq
      by_cases hidle : s.loop = .waiting ∧ s.sched.stopRequested = false
      · exact ⟨[], by simp, hq, by simp [Sys.runOr], by simp [Sys.runOr, hidle.1, hidle.2]⟩
      obtain ⟨acts, hset, hl₁, hsched, hd⟩ := hs.inv.reach_check hl fun hw =>
        .inr (by simpa [hw] using hidle)
      have hc := Sys.next_check_of hl₁
      rcases (s.runOr acts).afterCheck_cases with ⟨j, q, hq', -⟩ | ⟨-, hstop, he⟩ | ⟨-, hstop, he⟩
      · simp [hsched, hq] at hq'
      · refine ⟨acts ++ [.check, .clear], Act.settles_append hset (by simp [Act.settles]), ?_⟩
        rw [Sys.runOr_append, Sys.runOr_cons hc, he, Sys.runOr_cons (Sys.next_clear rfl)]
        simp only [hsched] at hstop
        simp [Sys.runOr, hsched, hstop, hq, hd]
      · refine ⟨acts ++ [.check], Act.settles_append hset (by simp [Act.settles]), ?_⟩
        rw [Sys.runOr_append, Sys.runOr_cons hc, he]
        simp only [hsched] at hstop
        simp [Sys.runOr, hsched, hstop, hq, hd]
  | cons j q ih =>
      intro s hs hl hq
      obtain ⟨acts, hset, hl₁, hsched, hd⟩ := hs.inv.reach_check hl fun _ => .inl (by simp [hq])
      have hc := Sys.next_check_of hl₁
      rcases (s.runOr acts).afterCheck_cases with ⟨j', q', hq', he⟩ | ⟨hq', -⟩ | ⟨hq', -⟩
      · obtain ⟨rfl, rfl⟩ : j = j' ∧ q = q' := by simpa [hsched, hq] using hq'
        have hf : ((s.runOr acts).popped j q).next .finish =
            some { (s.runOr acts).popped j q with loop := .top } := by
          simp [Sys.next, Sys.popped]
        have hrun : s.runOr (acts ++ [.check, .finish]) =
            { (s.runOr acts).popped j q with loop := .top } := by
          rw [Sys.runOr_append, Sys.runOr_cons hc, he, Sys.runOr_cons hf]; rfl
        obtain ⟨acts', hset', hq'', hd', hl'⟩ :=
          ih { (s.runOr acts).popped j q with loop := .top } (hrun ▸ hs.runOr _) rfl
            (by simp [Sys.popped])
        refine ⟨acts ++ [.check, .finish] ++ acts',
          Act.settles_append (Act.settles_append hset (by simp [Act.settles])) hset', ?_⟩
        rw [Sys.runOr_append, hrun]
        refine ⟨hq'', ?_, ?_⟩
        · exact hd'.trans (by simp [Sys.popped, hd])
        · simpa [Sys.popped, hsched] using hl'
      · simp [hsched, hq] at hq'
      · simp [hsched, hq] at hq'

/-- 待っているループに二つのジョブと停止が積まれ、三つのスレッドがまだ通知していないところ。 -/
theorem run_drains_queue_stopped :
    let s := (Sys.init : Sys Nat).runOr
      [.start, .check, .call 0 (.post 1), .call 1 (.post 2), .call 2 .stop]
    s.loop = .waiting ∧ s.sched.q = [1, 2] ∧ s.sched.stopRequested = true ∧
    ∃ acts : List (Act Nat), (∀ a ∈ acts, a.settles = true) ∧ (s.runOr acts).sched.q = [] ∧
      (s.runOr acts).dispatched = s.dispatched ++ s.sched.q ∧
      (s.runOr acts).loop = if s.sched.stopRequested then .returned else .waiting :=
  ⟨by decide, by decide, by decide, run_drains_queue (Reachable.init.runOr _) (by decide)⟩

end Cnerium.Core
