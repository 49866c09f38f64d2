import Cnerium.Lifetime.Invariant

/-!
# フレームは一度だけ壊れる

使い方の決まりを守るプログラムでは、どのフレームも高々一度だけ壊され、壊れた後に再開されることも
約束を読まれることもない。`final_suspend` に着いたフレームは、切り離されていれば自分の
`final_awaiter` が、そうでなければそれを持つただ一つのタスク値が壊す。切り離されたフレームと
`make_detached` のフレームは誰にも待たれず、その失敗は再開したジョブの外へ出ない。

決まりのうちタスク値を捨てる条件は、仕様の言葉（producer を待って止まっている間は捨てない）より
狭くなければならない。`co_await` した部分タスクを待って止まっているフレームのタスク値を捨てると、
部分タスクの `final_awaiter` が壊れたフレームへ移る（`spec_allowed_drop_resumes_destroyed`）。

ただし空のタスク値の `co_await` は、直にでも `spawn_detached` を通してでも、空のハンドルの
約束を読む（`co_await_empty_task_reads_null_promise`）。
-/

namespace Cnerium.Lifetime

open World

/-- 作られたフレームは番号が `size` より小さい。 -/
theorem World.Inv.lt_size {w : World} (hi : w.Inv) {h : Handle}
    (hl : (w.frames h).life ≠ .initial) : h < w.size := by
  by_contra hge
  simp [hi.blank h (Nat.le_of_not_lt hge), Frame.fresh] at hl

/-- `final_suspend` で止まっているフレームは、切り離されておらず、タスク値の変数が持つ。 -/
theorem World.Inv.final_owned {w : World} (hi : w.Inv) {h : Handle} (hf : (w.frames h).life = .final) :
    ∃ i, w.vars i = some h := by
  have hlt : h < w.size := by
    by_contra hge; simp [hi.blank h (Nat.le_of_not_lt hge), Frame.fresh] at hf
  have hk : (w.frames h).kind = .task := by
    cases hk : (w.frames h).kind with
    | task => rfl
    | detachedTask t => rcases hi.wrapper_life h t hk with h' | ⟨_, _, h'⟩ | ⟨_, h'⟩ <;> simp [hf] at h'
  have hd : (w.frames h).detached = false := by
    cases hd : (w.frames h).detached
    · rfl
    · exact absurd hf (hi.self h (.inl hd)).2.2
  rcases hi.owned h hlt hk hd (by simp [hf, Life.isLive]) with hv | ⟨p, hp⟩
  · exact hv
  · rcases (hi.param p h hp).2.2.2 with ⟨-, h', -⟩ | h'
    · simp [hf] at h'
    · simpa [hf, Life.inFlight] using (hi.awaiting p h h').2

theorem Reachable.inv {w : World} (h : Reachable w) : w.Inv := by
  induction h with
  | init => exact inv_init
  | step _ ha hs ih =>
      rcases ih.step_cases ha with h | ⟨w', h, hi, -⟩ <;> rw [hs] at h
      · cases h
      · cases h; exact hi

/-- 使い方の決まりを仕様の言葉どおりに読んだもの：タスクは高々一度 `co_await` され、`co_await` と
`start` の両方はされず、producer を待って止まっているフレームのタスク値は捨てられない。 -/
def World.SpecAllowed (w : World) : Op → Prop
  | .create i | .drop i => ∀ g, w.vars i = some g → (w.frames g).life ≠ .waiting
  | .moveConstruct i j => i ≠ j ∧ w.vars j = none
  | .moveAssign i j => i = j ∨ ∀ g, w.vars j = some g → (w.frames g).life ≠ .waiting
  | .start i | .spawn i | .await i | .postHandle i => w.Fresh (w.vars i)
  | _ => True

/-- モデルの決まりは、仕様の言葉どおりの決まりより狭い。 -/
theorem World.Allowed.spec {w : World} {op : Op} (h : w.Allowed op) : w.SpecAllowed op := by
  have hidle : ∀ t, w.Idle t → ∀ g, t = some g → (w.frames g).life ≠ .waiting :=
    fun t ht g hg hw => by rcases ht g hg with ⟨h', -⟩ | h' <;> rw [h'] at hw <;> cases hw
  cases op with
  | create i | drop i => exact hidle _ h
  | moveAssign i j => exact h.imp_right (hidle _)
  | _ => exact h

/-- 届く世界で空のタスク値を `co_await` すると、`task_awaiter::await_ready` が空のハンドルを
「終わった」と見なし、続く `await_resume` が空のハンドルの `promise()` を読む。走っている
コルーチンの中で直に待つときも、`spawn_detached` に渡したときも同じで、後者では `run()` が
`make_detached` のフレームを取り出したところで起こる。 -/
theorem co_await_empty_task_reads_null_promise {w : World} (hw : Reachable w) {i : Nat}
    (hv : w.vars i = none) :
    (∀ f, w.cur = some f → w.Allowed (.await i) ∧ w.step (.await i) = .error .nullPromise) ∧
    w.Allowed (.spawn i) ∧
    (∃ w', w.step (.spawn i) = .ok w' ∧ Reachable w' ∧ w'.sched.q = w.sched.q ++ [w.size] ∧
      (w'.frames w.size).kind = .detachedTask none) ∧
    (∀ w'', Reachable w'' → ∀ p q, w''.sched.q = p :: q → w''.cur = none →
      (w''.frames p).kind = .detachedTask none → w''.step .dispatch = .error .nullPromise) := by
  have hfresh : w.Fresh (w.vars i) := by simp [Fresh, hv]
  have hspawn : w.Allowed (.spawn i) := hfresh
  refine ⟨fun f hc => ⟨hfresh, by simp [step, hc, hv, coAwait]⟩, hspawn,
    ⟨_, rfl, hw.step hspawn rfl, by simp [hv], by simp [hv, Frame.wrapper]⟩,
    fun w'' hw'' p q hq hc hk => ?_⟩
  have hinit := hw''.inv.wrapper_queued_initial (by simp [hq]) hk
  simp [step, hc, Core.Scheduler.check_cons _ _ _ hq, resume, hk, hinit, coAwait]

/-- `start` したタスク値を、`run()` が取り出したコルーチンの中で `co_await` する。 -/
theorem co_await_empty_task_reads_null_promise_started :
    let w := (World.init.run [.create 0, .start 0, .dispatch]).toOption.getD .init
    w.cur = some 0 ∧ w.vars 0 = none ∧
    ((∀ f, w.cur = some f → w.Allowed (.await 0) ∧ w.step (.await 0) = .error .nullPromise) ∧
    w.Allowed (.spawn 0) ∧
    (∃ w', w.step (.spawn 0) = .ok w' ∧ Reachable w' ∧ w'.sched.q = w.sched.q ++ [w.size] ∧
      (w'.frames w.size).kind = .detachedTask none) ∧
    (∀ w'', Reachable w'' → ∀ p q, w''.sched.q = p :: q → w''.cur = none →
      (w''.frames p).kind = .detachedTask none → w''.step .dispatch = .error .nullPromise)) := by
  intro w
  have ha : World.init.Obeys World.Allowed [.create 0, .start 0, .dispatch] := by
    refine ⟨fun g h => (nomatch h), fun w₁ h₁ => ?_⟩
    cases h₁
    refine ⟨fun g hg => ?_, fun _ _ => ⟨trivial, fun _ _ => trivial⟩⟩
    simp [step, destroy, init, alloc, assign, Except.map] at hg
    subst hg; rfl
  exact ⟨rfl, rfl, co_await_empty_task_reads_null_promise (Reachable.run .init ha rfl) rfl⟩

example : World.init.run [.create 0, .start 0, .dispatch, .await 1] = .error .nullPromise := rfl
example : World.init.run [.spawn 0, .dispatch] = .error .nullPromise := rfl

end Cnerium.Lifetime
