import Cnerium.Scheduler.Basic

/-!
# スレッドの交互実行

`run()` を回すループのスレッド一つと、`post`・`stop` を呼ぶ任意個のスレッドを交互に動かす。
ロック `m_` の下の区間は一つの遷移として扱う（区間どうしは `m_` で排他なので、その順序がロックを
取った順である）。`cv_.wait(lock, pred)` は、述語を評価して偽ならロックを離して待ち集合に入るところまでが
ロックの下の一つの区間である。ロックを離した後の `notify_one`・`notify_all` と、ロックの外で動くジョブは
別の遷移にする。待っているループは通知のほか、いつでも起きうる（見かけ上の起床）。

記録として、ロックを取った順に積まれたジョブ `posted`、`run()` が実行したジョブ `dispatched`、
ループが述語を評価した回数 `epoch`、`break` した時点の `posted` の長さ `exitAt` を持つ。
-/

namespace Cnerium.Core

/-- ジョブを積んだ者：`run()` が実行中のジョブか、番号の付いたスレッド。 -/
inductive Poster
  | loop
  | thread (t : Nat)
deriving DecidableEq, Repr

/-- ロックの下で `post` または `stop` が行う書き込み。 -/
inductive Call (J : Type)
  | post (j : J)
  | stop
deriving DecidableEq, Repr

/-- `post`・`stop` を呼んだスレッドの位置。 -/
inductive CallPc
  /-- 呼び出しの外。 -/
  | idle
  /-- 書き込みを終えてロックを離し、通知の前。`all` は `notify_all`（`stop`）のとき真、`seen` は
  書き込んだときの `epoch`。 -/
  | notifying (all : Bool) (seen : Nat)
deriving DecidableEq, Repr

/-- ループのスレッドの位置。 -/
inductive LoopPc (J : Type)
  /-- `run()` を呼ぶ前。 -/
  | start
  /-- 繰り返しの先頭：ロックを取って述語を評価する。 -/
  | top
  /-- `cv_` の待ち集合の中。ロックは持たない。 -/
  | waiting
  /-- 待ち集合から出た：ロックを取り直して述語を評価し直す。 -/
  | woken
  /-- ロックの外で `j.fn()` を実行中。`inner` はジョブの中の `post`・`stop` の位置。 -/
  | exec (j : J) (inner : CallPc)
  /-- `break` してロックを離した。`running_ = false` の前。 -/
  | exited
  /-- `run()` から戻った。 -/
  | returned
  /-- ジョブの例外が `run()` の外へ抜けた。 -/
  | threw
deriving DecidableEq, Repr

/-- 交互実行の状態。 -/
structure Sys (J : Type) where
  sched : Scheduler J
  loop : LoopPc J
  callers : Nat → CallPc
  posted : List (Poster × J)
  dispatched : List J
  epoch : Nat
  exitAt : Nat

variable {J : Type}

/-- ロックの下の書き込み。 -/
def Call.apply : Call J → Scheduler J → Scheduler J
  | .post j, s => s.post j
  | .stop, s => s.stop

/-- `stop` は `notify_all`、`post` は `notify_one` で起こす。 -/
def Call.notifiesAll : Call J → Bool
  | .post _ => false
  | .stop => true

/-- 書き込みが積んだジョブの記録。 -/
def Call.logged (who : Poster) : Call J → List (Poster × J)
  | .post j => [(who, j)]
  | .stop => []

/-- 通知：待ち集合にいるのはループのスレッドだけなので、`notify_one` も `notify_all` もそれを起こす。
待っていなければ何も起きない。 -/
def LoopPc.wake : LoopPc J → LoopPc J
  | .waiting => .woken
  | pc => pc

/-- 交互実行の一歩。 -/
inductive Act (J : Type)
  /-- スレッド `t` が `post`・`stop` のロックの下の区間を実行する。 -/
  | call (t : Nat) (c : Call J)
  /-- スレッド `t` がロックを離した後の通知を実行する。 -/
  | notify (t : Nat)
  /-- `run()` が `running_ = true` を書く。 -/
  | start
  /-- ループがロックの下で述語を評価し、待つか、取り出すか、`break` する。 -/
  | check
  /-- 見かけ上の起床。 -/
  | spurious
  /-- 実行中のジョブが `post`・`stop` のロックの下の区間を実行する。 -/
  | jobCall (c : Call J)
  /-- 実行中のジョブの通知。 -/
  | jobNotify
  /-- ジョブが戻った。 -/
  | finish
  /-- ジョブが例外を投げた。 -/
  | throw
  /-- `break` の後の `running_ = false`。 -/
  | clear

/-- ループがロックの下の区間を終えた後の状態。 -/
def Sys.afterCheck (s : Sys J) : Sys J :=
  match s.sched.check with
  | .wait => { s with loop := .waiting, epoch := s.epoch + 1 }
  | .pop j q => { s with sched := q, loop := .exec j .idle, dispatched := s.dispatched ++ [j],
                         epoch := s.epoch + 1 }
  | .exit => { s with loop := .exited, epoch := s.epoch + 1, exitAt := s.posted.length }
  | .skip => { s with loop := .top, epoch := s.epoch + 1 }

/-- 一歩進めた状態。その一歩ができないときは `none`。 -/
def Sys.next (s : Sys J) : Act J → Option (Sys J)
  | .call t c =>
      match s.callers t with
      | .idle => some { s with sched := c.apply s.sched,
                               callers := Function.update s.callers t (.notifying c.notifiesAll s.epoch),
                               posted := s.posted ++ c.logged (.thread t) }
      | .notifying _ _ => none
  | .notify t =>
      match s.callers t with
      | .notifying _ _ => some { s with loop := s.loop.wake,
                                        callers := Function.update s.callers t .idle }
      | .idle => none
  | .start =>
      match s.loop with
      | .start => some { s with sched := { s.sched with running := true }, loop := .top }
      | _ => none
  | .check =>
      match s.loop with
      | .top | .woken => some s.afterCheck
      | _ => none
  | .spurious =>
      match s.loop with
      | .waiting => some { s with loop := .woken }
      | _ => none
  | .jobCall c =>
      match s.loop with
      | .exec j .idle => some { s with sched := c.apply s.sched,
                                       loop := .exec j (.notifying c.notifiesAll s.epoch),
                                       posted := s.posted ++ c.logged .loop }
      | _ => none
  | .jobNotify =>
      match s.loop with
      | .exec j (.notifying _ _) => some { s with loop := .exec j .idle }
      | _ => none
  | .finish =>
      match s.loop with
      | .exec _ .idle => some { s with loop := .top }
      | _ => none
  | .throw =>
      match s.loop with
      | .exec _ .idle => some { s with loop := .threw }
      | _ => none
  | .clear =>
      match s.loop with
      | .exited => some { s with sched := { s.sched with running := false }, loop := .returned }
      | _ => none

/-- 作られたばかりのスケジューラと、呼び出しの外にいるスレッド。 -/
def Sys.init : Sys J :=
  ⟨Scheduler.init, .start, fun _ => .idle, [], [], 0, 0⟩

/-- 初めの状態から交互実行で届く状態。 -/
inductive Reachable : Sys J → Prop
  | init : Reachable Sys.init
  | step {s s' : Sys J} (a : Act J) : Reachable s → s.next a = some s' → Reachable s'

/-- 一歩ずつ進める。できない一歩は飛ばす。 -/
def Sys.runOr (s : Sys J) : List (Act J) → Sys J
  | [] => s
  | a :: as => ((s.next a).getD s).runOr as

theorem Reachable.runOr {s : Sys J} (hs : Reachable s) (as : List (Act J)) : Reachable (s.runOr as) := by
  induction as generalizing s with
  | nil => exact hs
  | cons a as ih =>
      apply ih
      cases h : s.next a with
      | none => exact hs
      | some s' => exact .step a hs h

/-! ## 一歩でできること -/

/-- 書き込みが積むジョブ。 -/
def Call.jobs : Call J → List J
  | .post j => [j]
  | .stop => []

@[simp] theorem Call.apply_q (c : Call J) (s : Scheduler J) : (c.apply s).q = s.q ++ c.jobs := by
  cases c <;> simp [Call.apply, Call.jobs]

@[simp] theorem Call.logged_snd (c : Call J) (who : Poster) :
    (c.logged who).map Prod.snd = c.jobs := by
  cases c <;> rfl

@[simp] theorem Call.apply_running (c : Call J) (s : Scheduler J) :
    (c.apply s).running = s.running := by
  cases c <;> rfl

@[simp] theorem Call.apply_stopRequested (c : Call J) (s : Scheduler J) :
    (c.apply s).stopRequested = (s.stopRequested || c.notifiesAll) := by
  cases c <;> simp [Call.apply, Call.notifiesAll]

@[simp] theorem LoopPc.wake_ne_waiting (pc : LoopPc J) : pc.wake ≠ .waiting := by
  cases pc <;> simp [LoopPc.wake]

/-- 先頭を取り出したときの状態。 -/
def Sys.popped (s : Sys J) (j : J) (q : List J) : Sys J :=
  { s with sched := { s.sched with q := q }, loop := .exec j .idle,
           dispatched := s.dispatched ++ [j], epoch := s.epoch + 1 }

/-- ロックの下の区間の三つの結末。 -/
theorem Sys.afterCheck_cases (s : Sys J) :
    (∃ j q, s.sched.q = j :: q ∧ s.afterCheck = s.popped j q) ∨
    (s.sched.q = [] ∧ s.sched.stopRequested = true ∧
      s.afterCheck = { s with loop := .exited, epoch := s.epoch + 1, exitAt := s.posted.length }) ∨
    (s.sched.q = [] ∧ s.sched.stopRequested = false ∧
      s.afterCheck = { s with loop := .waiting, epoch := s.epoch + 1 }) := by
  rcases s.sched.check_cases with ⟨j, q, hq, hc⟩ | ⟨hq, hs, hc⟩ | ⟨hq, hs, hc⟩
  · exact .inl ⟨j, q, hq, by simp [Sys.afterCheck, Sys.popped, hc]⟩
  · exact .inr (.inl ⟨hq, hs, by simp [Sys.afterCheck, hc]⟩)
  · exact .inr (.inr ⟨hq, hs, by simp [Sys.afterCheck, hc]⟩)

/-- キューと記録について一歩でできること：ロックの下で書き込むか、先頭を取り出すか、どちらも変えないか。 -/
theorem Sys.next_queue {s s' : Sys J} {a : Act J} (h : s.next a = some s') :
    (∃ (who : Poster) (c : Call J), s'.sched.q = s.sched.q ++ c.jobs ∧
      s'.sched.stopRequested = (s.sched.stopRequested || c.notifiesAll) ∧
      s'.posted = s.posted ++ c.logged who ∧ s'.dispatched = s.dispatched) ∨
    (∃ j, s.sched.q = j :: s'.sched.q ∧ s'.sched.stopRequested = s.sched.stopRequested ∧
      s'.posted = s.posted ∧ s'.dispatched = s.dispatched ++ [j]) ∨
    (s'.sched.q = s.sched.q ∧ s'.sched.stopRequested = s.sched.stopRequested ∧
      s'.posted = s.posted ∧ s'.dispatched = s.dispatched) := by
  cases a with
  | call t c =>
      cases ht : s.callers t <;> simp [Sys.next, ht] at h
      subst h; exact .inl ⟨.thread t, c, by simp⟩
  | notify t =>
      cases ht : s.callers t <;> simp [Sys.next, ht] at h
      subst h; exact .inr (.inr (by simp))
  | jobCall c =>
      rcases hl : s.loop with _ | _ | _ | _ | ⟨j, _ | ⟨_, _⟩⟩ | _ | _ | _ <;> simp [Sys.next, hl] at h
      subst h; exact .inl ⟨.loop, c, by simp⟩
  | check =>
      have h' : s.afterCheck = s' := by
        cases hl : s.loop <;> simp [Sys.next, hl] at h <;> exact h
      subst h'
      rcases s.afterCheck_cases with ⟨j, q, hq, he⟩ | ⟨-, -, he⟩ | ⟨-, -, he⟩ <;> rw [he]
      · exact .inr (.inl ⟨j, hq, rfl, rfl, rfl⟩)
      · exact .inr (.inr ⟨rfl, rfl, rfl, rfl⟩)
      · exact .inr (.inr ⟨rfl, rfl, rfl, rfl⟩)
  | _ =>
      rcases hl : s.loop with _ | _ | _ | _ | ⟨j, _ | ⟨_, _⟩⟩ | _ | _ | _ <;> simp [Sys.next, hl] at h
      all_goals subst h; exact .inr (.inr (by simp))

theorem Sys.next_check {s s' : Sys J} (h : s.next .check = some s') :
    (s.loop = .top ∨ s.loop = .woken) ∧ s' = s.afterCheck := by
  cases hl : s.loop <;> simp [Sys.next, hl] at h ⊢ <;> exact h.symm

/-- `exitAt` を書くのは `break` だけで、そのときの `posted` の長さを書く。 -/
theorem Sys.next_exitAt {s s' : Sys J} {a : Act J} (h : s.next a = some s') :
    s'.exitAt = s.exitAt ∨ s'.exitAt = s.posted.length := by
  cases a with
  | call t c | notify t =>
      cases ht : s.callers t <;> simp [Sys.next, ht] at h
      subst h; exact .inl rfl
  | check =>
      have h' : s.afterCheck = s' := by
        cases hl : s.loop <;> simp [Sys.next, hl] at h <;> exact h
      subst h'
      rcases s.afterCheck_cases with ⟨j, q, -, hc⟩ | ⟨-, -, hc⟩ | ⟨-, -, hc⟩ <;> simp [hc, Sys.popped]
  | _ =>
      rcases hl : s.loop with _ | _ | _ | _ | ⟨j, _ | ⟨_, _⟩⟩ | _ | _ | _ <;> simp [Sys.next, hl] at h
      all_goals subst h; exact .inl rfl

/-- `stop_requested_` は一度立つと下りない。 -/
theorem Sys.next_stopRequested {s s' : Sys J} {a : Act J} (h : s.next a = some s')
    (hs : s.sched.stopRequested = true) : s'.sched.stopRequested = true := by
  rcases Sys.next_queue h with ⟨_, _, -, h', -⟩ | ⟨_, -, h', -⟩ | ⟨-, h', -⟩ <;> simp [h', hs]

/-- ループのスレッドを待ち集合に入れる一歩は、ロックの下で述語が偽と評価した `check` だけである。
それ以外で待っているループが残る一歩は、他のスレッドの書き込みで、そのスレッドは通知の前にいる。 -/
theorem Sys.next_waiting {s s' : Sys J} {a : Act J} (h : s.next a = some s')
    (hw : s'.loop = .waiting) :
    (a = .check ∧ s'.sched.q = [] ∧ s'.sched.stopRequested = false) ∨
    (∃ t c, a = .call t c ∧ s.loop = .waiting ∧ s'.callers t = .notifying c.notifiesAll s'.epoch) := by
  cases a with
  | call t c =>
      cases ht : s.callers t <;> simp [Sys.next, ht] at h
      subst h; exact .inr ⟨t, c, rfl, hw, by simp⟩
  | notify t =>
      cases ht : s.callers t <;> simp [Sys.next, ht] at h
      subst h; exact absurd hw (LoopPc.wake_ne_waiting _)
  | check =>
      have h' : s.afterCheck = s' := by
        cases hl : s.loop <;> simp [Sys.next, hl] at h <;> exact h
      subst h'
      rcases s.afterCheck_cases with ⟨j, q, -, he⟩ | ⟨-, -, he⟩ | ⟨hq, hs, he⟩ <;> rw [he] at hw ⊢
      · simp [Sys.popped] at hw
      · simp at hw
      · exact .inl ⟨rfl, hq, hs⟩
  | _ =>
      rcases hl : s.loop with _ | _ | _ | _ | ⟨j, _ | ⟨_, _⟩⟩ | _ | _ | _ <;> simp [Sys.next, hl] at h
      all_goals subst h; simp at hw

end Cnerium.Core
