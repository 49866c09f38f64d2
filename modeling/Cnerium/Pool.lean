import Cnerium.Cancel

/-!
# スレッドプールへの投入

`thread_pool.hpp` の `thread_pool::submit(fn, ct)` が作る `awaitable` と、その `await_suspend` が
作業者のキューに積むラッパーを写す。ラッパーは作業者のスレッドで一歩ずつ進み、その間のどこにでも
他のスレッドの取り消し操作が割り込む（`Cnerium.Cancel.Par`）。`fn()` の振る舞いと
`store.set(std::move(r))` が投げるかどうかは任意に取る。

`fn` が何を返し何を投げても、ラッパーは結果を書き終えてから `ctx_post(h)` をちょうど一度呼び、
`await_resume` は検査で読んだ値と `fn` の結果だけで決まる（`submit_laws`）。ただし `fn` 自身が
`system_error(cancelled_ec())` を投げると、再開した側からは取り消しと見分けられない。
-/

namespace Cnerium.Pool

open Cancel

/-- `submit` の `awaitable` のうち、ラッパーと `await_resume` が読み書きするもの。 -/
structure Awaitable (X R : Type) where
  ct : CancelToken
  /-- `store.value`。`R = void` の `result_store<void>` では使わない。 -/
  value : Option R
  /-- 作業者が捕まえた例外。 -/
  ex : Option X

/-- 投入された仕事。`fn` は `fn()` を呼んだ結果（戻った値か投げた例外）、`set r` は
`store.set(std::move(r))` が投げる例外（投げなければ `none`）、`isVoid` は `R` が `void` か。 -/
structure Job (X R : Type) where
  isVoid : Bool
  fn : Except X R
  set : R → Option X

/-- ラッパーのどこまで進んだか。 -/
inductive Pc (R : Type)
  /-- 作業者のキューにある。次は `ct.is_cancelled()` の検査。 -/
  | queued
  /-- 検査を通った。次は `fn()`。 -/
  | call
  /-- `fn()` が `r` を返した。次は `store.set(std::move(r))`。 -/
  | store (r : R)
  /-- 結果を書き終えた。次は `pool->ctx_post(h)`。 -/
  | post
  /-- `ctx_post(h)` を呼んでラッパーが終わった。 -/
  | done
deriving DecidableEq, Repr

/-- 作業者のスレッドから見た状態。`calls`、`posts`、`checked` は証明のための記録で、`fn()` と
`ctx_post(h)` を呼んだ回数と、検査で読んだ値である。 -/
structure Worker (X R : Type) where
  aw : Awaitable X R
  pc : Pc R
  calls : Nat
  posts : Nat
  checked : Option Bool

variable {X R : Type}

/-- `co_await awaitable{this, std::move(ct), fn}` の `await_suspend` がラッパーを積んだところ。 -/
def Worker.init (ct : CancelToken) : Worker X R := ⟨⟨ct, none, none⟩, .queued, 0, 0, none⟩

/-- Modelled from the spec: `thread_pool::ctx_post(h)` は宣言だけがあり、仕様のとおり `h` を再開する
ジョブをランタイムのスケジューラに `post` する。ここではその回数を数える。 -/
def Worker.ctxPost (w : Worker X R) : Worker X R := { w with posts := w.posts + 1 }

/-- ラッパーの一歩。`cancelled` は `std::system_error(cancelled_ec())`、`heap` はこの時点の共有された
取り消しの状態。終わったラッパーはもう動かない。 -/
def Worker.step (cancelled : X) (job : Job X R) (heap : Heap) (w : Worker X R) : Worker X R :=
  match w.pc with
  | .queued =>
      if w.aw.ct.isCancelled heap then
        { w with aw := { w.aw with ex := some cancelled }, pc := .post, checked := some true }
      else { w with pc := .call, checked := some false }
  | .call =>
      match job.fn with
      | .error e => { w with aw := { w.aw with ex := some e }, pc := .post, calls := w.calls + 1 }
      | .ok r => { w with pc := if job.isVoid then .post else .store r, calls := w.calls + 1 }
  | .store r =>
      match job.set r with
      | some e => { w with aw := { w.aw with ex := some e }, pc := .post }
      | none => { w with aw := { w.aw with value := some r }, pc := .post }
  | .post => { w.ctxPost with pc := .done }
  | .done => w

/-- `await_resume` の結果。 -/
inductive Resumed (X R : Type)
  /-- `return store.take();` -/
  | value (v : R)
  /-- `return;`（`R = void`）。 -/
  | unit
  /-- `std::rethrow_exception(ex)`。 -/
  | rethrow (e : X)
  /-- 空の `optional` に `take()` を使う（未定義の動作）。 -/
  | emptyTake
deriving DecidableEq, Repr

/-- `awaitable::await_resume`。 -/
def Awaitable.awaitResume (a : Awaitable X R) (isVoid : Bool) : Resumed X R :=
  match a.ex with
  | some e => .rethrow e
  | none =>
      if isVoid then .unit
      else
        match a.value with
        | some v => .value v
        | none => .emptyTake

/-- 検査で読んだ値 `c` から決まる、再開したときに起きること：取り消されていれば
`system_error(cancelled_ec())` を、そうでなければ `fn()` か `store.set` の例外を投げ、どちらも
なければ `fn()` の値を返す。 -/
def Job.outcome (cancelled : X) (job : Job X R) (c : Bool) : Resumed X R :=
  if c then .rethrow cancelled
  else
    match job.fn with
    | .error e => .rethrow e
    | .ok r =>
        if job.isVoid then .unit
        else
          match job.set r with
          | some e => .rethrow e
          | none => .value r

theorem Job.outcome_ne_emptyTake (cancelled : X) (job : Job X R) (c : Bool) :
    job.outcome cancelled c ≠ .emptyTake := by
  unfold Job.outcome
  split
  · simp
  · split
    · simp
    · split
      · simp
      · split <;> simp

/-- ラッパーが終わるまでに残る一歩の数の上限。 -/
def Pc.left : Pc R → Nat
  | .queued => 4
  | .call => 3
  | .store _ => 2
  | .post => 1
  | .done => 0

/-! ## ラッパーの各位置で成り立つこと -/

section Inv

variable (cancelled : X) (job : Job X R)

/-- 検査で `c` を読み、それに応じて `fn()` を呼び、結果を書き終えている。 -/
def Worker.Recorded (c : Bool) (w : Worker X R) : Prop :=
  w.checked = some c ∧ w.calls = (if c then 0 else 1) ∧
    w.aw.awaitResume job.isVoid = job.outcome cancelled c

/-- ラッパーの各位置で成り立つこと。`ctx_post(h)` の前に結果は書き終わっている。 -/
def Worker.Inv (w : Worker X R) : Prop :=
  match w.pc with
  | .queued => w.checked = none ∧ w.calls = 0 ∧ w.posts = 0 ∧ w.aw.value = none ∧ w.aw.ex = none
  | .call => w.checked = some false ∧ w.calls = 0 ∧ w.posts = 0 ∧ w.aw.value = none ∧ w.aw.ex = none
  | .store r => w.checked = some false ∧ w.calls = 1 ∧ w.posts = 0 ∧ w.aw.value = none ∧
      w.aw.ex = none ∧ job.fn = .ok r ∧ job.isVoid = false
  | .post => w.posts = 0 ∧ ∃ c, w.Recorded cancelled job c
  | .done => w.posts = 1 ∧ ∃ c, w.Recorded cancelled job c

theorem Worker.inv_init (ct : CancelToken) : (Worker.init ct : Worker X R).Inv cancelled job := by
  simp [Worker.Inv, Worker.init]

theorem Worker.Inv.step {w : Worker X R} (hw : w.Inv cancelled job) (heap : Heap) :
    (w.step cancelled job heap).Inv cancelled job := by
  cases hpc : w.pc with
  | queued =>
      obtain ⟨-, hc, hp, hv, he⟩ : w.checked = none ∧ w.calls = 0 ∧ w.posts = 0 ∧ w.aw.value = none ∧
          w.aw.ex = none := by simpa only [Worker.Inv, hpc] using hw
      simp only [Worker.step, hpc]
      split
      · simp [Worker.Inv, Worker.Recorded, hc, hp, Awaitable.awaitResume, Job.outcome]
      · simp [Worker.Inv, hc, hp, hv, he]
  | call =>
      obtain ⟨hk, hc, hp, hv, he⟩ : w.checked = some false ∧ w.calls = 0 ∧ w.posts = 0 ∧
          w.aw.value = none ∧ w.aw.ex = none := by simpa only [Worker.Inv, hpc] using hw
      simp only [Worker.step, hpc]
      split
      case h_1 e hfn =>
        simp [Worker.Inv, Worker.Recorded, hk, hc, hp, Awaitable.awaitResume, Job.outcome, hfn]
      case h_2 r hfn =>
        cases hvoid : job.isVoid
        · simp [Worker.Inv, hk, hc, hp, hv, he, hfn, hvoid]
        · simp [Worker.Inv, Worker.Recorded, hk, hc, hp, he, Awaitable.awaitResume, Job.outcome, hfn,
            hvoid]
  | store r =>
      obtain ⟨hk, hc, hp, -, he, hfn, hvoid⟩ : w.checked = some false ∧ w.calls = 1 ∧ w.posts = 0 ∧
          w.aw.value = none ∧ w.aw.ex = none ∧ job.fn = .ok r ∧ job.isVoid = false := by
        simpa only [Worker.Inv, hpc] using hw
      simp only [Worker.step, hpc]
      split <;> simp_all [Worker.Inv, Worker.Recorded, Awaitable.awaitResume, Job.outcome]
  | post =>
      obtain ⟨hp, c, hr⟩ : w.posts = 0 ∧ ∃ c, w.Recorded cancelled job c := by
        simpa only [Worker.Inv, hpc] using hw
      simp only [Worker.Inv, Worker.step, hpc, Worker.ctxPost]
      exact ⟨by omega, c, hr⟩
  | done => simpa only [Worker.step, hpc] using hw

end Inv

theorem Worker.left_step (cancelled : X) (job : Job X R) (heap : Heap) (w : Worker X R) :
    (w.step cancelled job heap).pc.left ≤ w.pc.left - 1 := by
  cases hpc : w.pc with
  | queued => simp only [Worker.step, hpc]; split <;> simp [Pc.left]
  | call => simp only [Worker.step, hpc]; split <;> [simp [Pc.left]; split <;> simp [Pc.left]]
  | store r => simp only [Worker.step, hpc]; split <;> simp [Pc.left]
  | post => simp [Worker.step, hpc, Worker.ctxPost, Pc.left]
  | done => simp [Worker.step, hpc, Pc.left]

/-- 検査を済ませたラッパーは、読んだ値を忘れない。 -/
theorem Worker.checked_step (cancelled : X) (job : Job X R) (heap : Heap) {w : Worker X R} {c : Bool}
    (hpc : w.pc ≠ .queued) (hc : w.checked = some c) :
    (w.step cancelled job heap).pc ≠ .queued ∧ (w.step cancelled job heap).checked = some c := by
  cases hp : w.pc with
  | queued => exact absurd hp hpc
  | call => simp only [Worker.step, hp]; split <;> [simp [hc]; split <;> simp [hc]]
  | store r => simp only [Worker.step, hp]; split <;> simp [hc]
  | post => simp [Worker.step, hp, Worker.ctxPost, hc]
  | done => simp [Worker.step, hp, hc]

theorem Pc.left_eq_zero {p : Pc R} : p.left = 0 ↔ p = .done := by
  cases p <;> simp [Pc.left]

theorem Worker.Inv.posts {cancelled : X} {job : Job X R} {w : Worker X R}
    (hw : w.Inv cancelled job) : w.posts ≤ 1 ∧ (w.posts = 1 ↔ w.pc = .done) := by
  cases hpc : w.pc <;> simp only [Worker.Inv, hpc] at hw
  case post | done => simp [hw.1]
  all_goals simp [hw.2.2.1]

/-! ## 投入の法則 -/

/-- どの `fn`、どのトークン、取り消し操作と作業者の一歩のどの交互の列でも：ラッパーの最初の一歩の検査は
その時点のトークンの観測 `c` を読み、`ctx_post(h)` は高々一度で、それを呼ぶのはラッパーの最後の一歩で
ある。終わったラッパーは、`c` が偽のときに限り `fn()` を一度呼んでおり、`await_resume` は
`Job.outcome` のとおりに値を返すか例外を投げ、空の `optional` を読まない。検査の後、ラッパーは
作業者の三歩で終わる。 -/
theorem submit_laws (cancelled : X) (job : Job X R) (cancel : Cancel.World) (ct : CancelToken)
    (ops : List Cancel.Op) (evs : List Event) :
    let s₀ : Par (Worker X R) := ⟨cancel, Worker.init ct⟩
    let c := ct.isCancelled (s₀.run (Worker.step cancelled job) (ops.map .cancel)).cancel.heap
    let s := s₀.run (Worker.step cancelled job) (ops.map .cancel ++ .step :: evs)
    s.loc.checked = some c ∧ s.loc.posts ≤ 1 ∧ (s.loc.posts = 1 ↔ s.loc.pc = .done) ∧
    (s.loc.pc = .done → s.loc.calls = (if c then 0 else 1) ∧
      s.loc.aw.awaitResume job.isVoid = job.outcome cancelled c ∧
      s.loc.aw.awaitResume job.isVoid ≠ .emptyTake) ∧
    (3 ≤ evs.count .step → s.loc.pc = .done) := by
  intro s₀ c s
  let s₁ := (s₀.run (Worker.step cancelled job) (ops.map .cancel)).apply (Worker.step cancelled job) .step
  have hs : s = s₁.run (Worker.step cancelled job) evs := Par.run_cancels_step _ _ _ _
  have h₁ : s₁.loc = Worker.step cancelled job
      (s₀.run (Worker.step cancelled job) (ops.map .cancel)).cancel.heap (Worker.init ct) := by
    simp only [s₁, Par.apply, Par.run_cancels_loc]
  have hcheck : s₁.loc.pc ≠ .queued ∧ s₁.loc.checked = some c := by
    rw [h₁]
    simp only [Worker.step, Worker.init]
    split <;> simp_all [c]
  have hinv : s.loc.Inv cancelled job :=
    Par.run_loc _ (fun _ _ h => h.step cancelled job _) _ (Worker.inv_init cancelled job ct)
  have hc : s.loc.checked = some c := by
    rw [hs]
    exact (Par.run_loc _ (P := fun l : Worker X R => l.pc ≠ .queued ∧ l.checked = some c)
      (fun _ _ h => Worker.checked_step cancelled job _ h.1 h.2) evs hcheck).2
  refine ⟨hc, hinv.posts.1, hinv.posts.2, fun hd => ?_, fun hn => ?_⟩
  · obtain ⟨-, c', hc', hcalls, hres⟩ : s.loc.posts = 1 ∧ ∃ c, s.loc.Recorded cancelled job c := by
      simpa only [Worker.Inv, hd] using hinv
    rw [Option.some_injective _ (hc'.symm.trans hc)] at hcalls hres
    exact ⟨hcalls, hres, hres ▸ Job.outcome_ne_emptyTake cancelled job c⟩
  · have h₃ : s₁.loc.pc.left ≤ 3 := by rw [h₁]; exact Worker.left_step cancelled job _ _
    rw [hs]
    exact Pc.left_eq_zero.1 (Par.run_measure_zero _ (m := fun w : Worker X R => w.pc.left)
      (Worker.left_step cancelled job) (h₃.trans hn))

/-- `fn` が自分で `system_error(cancelled_ec())` を投げると、トークンが取り消されていなくても
`await_resume` は同じ例外を投げる。 -/
theorem fn_throwing_cancelled_resumes_as_cancelled :
    let s := (⟨Cancel.World.init, Worker.init ⟨none⟩⟩ : Par (Worker String Nat)).run
      (Worker.step "canceled" ⟨false, .error "canceled", fun _ => none⟩) [.step, .step, .step]
    s.loc.pc = .done ∧ s.loc.checked = some false ∧
      s.loc.aw.awaitResume false = .rethrow "canceled" :=
  by decide

end Cnerium.Pool
