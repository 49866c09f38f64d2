import Cnerium.Scheduler.Basic
import Mathlib.Logic.Function.Basic

/-!
# フレームの寿命

`task.hpp` の `task<T>`（移動、`~task`、`start`、`destroy`）、`task_awaiter`、
`promise_common::final_awaiter` と、`log.hpp` の `detail::detached_task`、`make_detached`、
`spawn_detached` を、コルーチンのフレームとタスク値の変数からなる世界として写す。フレームの番号が
`coroutine_handle<>` にあたり、タスク値の変数は番号の付いた置き場で、中身はその `h_` である。

世界の一歩は、プログラムがタスク値にする操作（`ctx.post(t.handle())` でハンドルだけを積むことも含む）、
ループのスレッドで走っているコルーチンの本体の一歩
（`co_await`、producer を待つ中断、本体の終わり）、`run()` がキューから取り出して再開するジョブ、
producer（スレッドプールの作業者やネットワークのスレッド）がハンドルを `post` することのどれかである。
未定義の動作に当たった一歩は `Fault` を返す。

コルーチンの本体の中身は問わず、寿命に関わる一歩だけを写す。`promise` の値と例外は
`Cnerium.Task.Machine` で扱い、ここでは持たない。`awaited` は、フレームを再開するもの（`co_await` か、
ハンドルを積んだジョブ）にすでに渡したことの、証明のための記録である。
-/

namespace Cnerium.Lifetime

/-- `coroutine_handle<>`：フレームの番号。 -/
abbrev Handle := Nat

/-- フレームを壊したもの。 -/
inductive Cause
  /-- 持ち主のタスク値の `destroy()`（デストラクタか移動代入）。 -/
  | owner
  /-- 自分の `final_awaiter::await_suspend`。 -/
  | finalAwaiter
deriving DecidableEq, Repr

/-- フレームがどこにいるか。 -/
inductive Life
  /-- `initial_suspend` で止まっている。 -/
  | initial
  /-- ループのスレッドが実行している。 -/
  | running
  /-- `co_await` した部分タスク `sub` の終わりを待って止まっている。 -/
  | awaiting (sub : Handle)
  /-- producer にハンドルを渡して止まっている。 -/
  | waiting
  /-- `final_suspend` で止まっている。 -/
  | final
  /-- 壊された。 -/
  | destroyed (c : Cause)
deriving DecidableEq, Repr

/-- 壊されていない。 -/
def Life.isLive : Life → Bool
  | .destroyed _ => false
  | _ => true

/-- 走っているか、途中で止まって再開を待っている。 -/
def Life.inFlight : Life → Bool
  | .running | .awaiting _ | .waiting => true
  | _ => false

/-- コルーチンの種類。 -/
inductive Kind
  /-- `task<T>`・`task<void>` のコルーチン。 -/
  | task
  /-- `make_detached(task<void> t)` のコルーチン。`t` は引数のタスク値の `h_`。 -/
  | detachedTask (t : Option Handle)
deriving DecidableEq, Repr

/-- コルーチンのフレーム。`detached` と `continuation` は `promise_common` のフィールド。 -/
structure Frame where
  kind : Kind
  life : Life
  detached : Bool
  continuation : Option Handle
  awaited : Bool
deriving DecidableEq, Repr

/-- 作られたばかりの `task<T>` のコルーチン。 -/
def Frame.fresh : Frame := ⟨.task, .initial, false, none, false⟩

/-- 作られたばかりの `make_detached(t)` のコルーチン。 -/
def Frame.wrapper (t : Option Handle) : Frame := ⟨.detachedTask t, .initial, false, none, false⟩

/-- 未定義の動作。 -/
inductive Fault
  /-- 壊れたフレームの `destroy()`。 -/
  | doubleDestroy (h : Handle)
  /-- 壊れたフレームの再開。 -/
  | resumeDestroyed (h : Handle)
  /-- 再開できる中断点で止まっていないフレームの再開。 -/
  | resumeInvalid (h : Handle)
  /-- 壊れたフレームの `done()` か `promise()`。 -/
  | readDestroyed (h : Handle)
  /-- 空のハンドルの `promise()`。 -/
  | nullPromise
deriving DecidableEq, Repr

/-- フレーム、タスク値の変数、ループのスレッドで走っているフレーム、スケジューラ、producer が
持っているハンドル。 -/
structure World where
  frames : Handle → Frame
  size : Nat
  vars : Nat → Option Handle
  cur : Option Handle
  sched : Core.Scheduler Handle
  pending : List Handle

/-- 世界の一歩。 -/
inductive Op
  /-- `t_i = coro();`：新しいフレームを作り、戻り値の一時オブジェクトから移動代入する。 -/
  | create (i : Nat)
  /-- `task t_j(std::move(t_i));` -/
  | moveConstruct (i j : Nat)
  /-- `t_j = std::move(t_i);`（`i = j` の自己代入も含む）。 -/
  | moveAssign (i j : Nat)
  /-- `t_i.~task()` -/
  | drop (i : Nat)
  /-- `std::move(t_i).start(sched);` -/
  | start (i : Nat)
  /-- `spawn_detached(ctx, std::move(t_i));` -/
  | spawn (i : Nat)
  /-- `ctx.post(t_i.handle());`：タスク値の持つハンドルを再開するジョブ `[h] { if (h) h.resume(); }` を
  積む。タスク値は持ち主のままである。 -/
  | postHandle (i : Nat)
  /-- 走っているコルーチンの `co_await t_i;` -/
  | await (i : Nat)
  /-- 走っているコルーチンが producer の awaitable（`thread_pool::submit`、ネットワーク、タイマー）を
  `co_await` して止まる。 -/
  | suspend
  /-- 走っているコルーチンの `co_await sched.schedule();`。`s` はスケジューラのポインタが空でないか。 -/
  | schedule (s : Bool)
  /-- 走っているコルーチンの本体が終わる（`co_return` か、`unhandled_exception` が捕まえた例外）。 -/
  | finish
  /-- `k` 番目の producer が預かったハンドルを `post` する。 -/
  | produce (k : Nat)
  /-- `run()` がキューの先頭のジョブ `[h] { if (h) h.resume(); }` を取り出して実行する。 -/
  | dispatch
deriving DecidableEq, Repr

namespace World

/-- フレーム `h` を書き換える。 -/
def modify (w : World) (h : Handle) (f : Frame → Frame) : World :=
  { w with frames := Function.update w.frames h (f (w.frames h)) }

/-- フレーム `h` の居場所を書き換える。 -/
def setLife (w : World) (h : Handle) (l : Life) : World := w.modify h fun fr => { fr with life := l }

/-- 新しいフレームを番号 `w.size` に置く。 -/
def alloc (w : World) (fr : Frame) : World :=
  { w with frames := Function.update w.frames w.size fr, size := w.size + 1 }

/-- 変数 `i` に書く。 -/
def assign (w : World) (i : Nat) (t : Option Handle) : World :=
  { w with vars := Function.update w.vars i t }

/-- `scheduler::post(h)`：`h` を再開するジョブをキューの後ろに積む。 -/
def post (w : World) (h : Handle) : World := { w with sched := w.sched.post h }

/-- `coroutine_handle::destroy` のうちフレーム自身の分：壊れたフレームをもう一度壊すのは未定義。 -/
def kill (w : World) (h : Handle) (c : Cause) : Except Fault World :=
  match (w.frames h).life with
  | .destroyed _ => .error (.doubleDestroy h)
  | _ => .ok (w.setLife h (.destroyed c))

/-- `h.destroy()`：フレームを壊す。`make_detached` のフレームでは、引数のタスク値の `~task` が
その `h_` を壊す。 -/
def destroyHandle (w : World) (h : Handle) (c : Cause) : Except Fault World :=
  match w.kill h c, (w.frames h).kind with
  | .ok w', .detachedTask (some t) => w'.kill t .owner
  | r, _ => r

/-- `task::destroy`：`h_` があれば壊して空にする。 -/
def destroy (w : World) (i : Nat) : Except Fault World :=
  match w.vars i with
  | some h => (w.destroyHandle h .owner).map fun w' => w'.assign i none
  | none => .ok w

/-- `task<T>` のコルーチン `h` の再開（`h.resume()` か対称転送）。 -/
def resumeTask (w : World) (h : Handle) : Except Fault World :=
  match (w.frames h).life with
  | .initial | .waiting => .ok { w.setLife h .running with cur := some h }
  | .destroyed _ => .error (.resumeDestroyed h)
  | _ => .error (.resumeInvalid h)

/-- フレーム `f` の中の `co_await` に使う `task_awaiter{t}`。`await_ready`（`!h || h.done()`）が真なら
止まらずに `await_resume` が `h.promise()` を読んで `k` へ進み、偽なら `await_suspend` が
`continuation` に `f` を書いて `t` へ対称転送する。 -/
def coAwait (w : World) (f : Handle) (t : Option Handle) (k : World → Except Fault World) :
    Except Fault World :=
  match t with
  | none => .error .nullPromise
  | some g =>
      match (w.frames g).life with
      | .destroyed _ => .error (.readDestroyed g)
      | .final => k (w.modify g fun fr => { fr with awaited := true })
      | _ =>
          ((w.modify g fun fr => { fr with continuation := some f, awaited := true }).setLife f
            (.awaiting g)).resumeTask g

/-- `make_detached` の本体 `co_await t; co_return;` の `co_await` から後：`t` の例外は
`unhandled_exception` が握りつぶし、`final_awaiter` が自分のフレームを壊す。 -/
def detachedFinal (w : World) (p : Handle) : Except Fault World := w.destroyHandle p .finalAwaiter

/-- `final_awaiter` が返した `continuation` の `c` への対称転送。`c` は `f` を待つ `co_await` から
戻り、`await_resume` が `f` の約束を読む。 -/
def resumeContinuation (w : World) (c f : Handle) : Except Fault World :=
  match (w.frames c).life with
  | .awaiting g =>
      if g = f then
        match (w.frames c).kind with
        | .task => .ok { w.setLife c .running with cur := some c }
        | .detachedTask _ => { w with cur := none }.detachedFinal c
      else .error (.resumeInvalid c)
  | .destroyed _ => .error (.resumeDestroyed c)
  | _ => .error (.resumeInvalid c)

/-- 本体を抜けた `task<T>` のフレーム `f` の `final_suspend`（`final_awaiter::await_suspend`）：
`continuation` があればそこへ移り、なければ `detached` のとき自分を壊す。どちらでもなければ
`noop_coroutine()` が返って、`f` を再開したジョブが戻る。 -/
def finalSuspend (w : World) (f : Handle) : Except Fault World :=
  match (w.frames f).continuation with
  | some c => (w.setLife f .final).resumeContinuation c f
  | none =>
      if (w.frames f).detached then { w.setLife f .final with cur := none }.destroyHandle f .finalAwaiter
      else .ok { w.setLife f .final with cur := none }

/-- スケジューラのジョブ `[h] { if (h) h.resume(); }`。 -/
def resume (w : World) (h : Handle) : Except Fault World :=
  match (w.frames h).kind, (w.frames h).life with
  | .task, _ => w.resumeTask h
  | .detachedTask t, .initial => w.coAwait h t fun w' => w'.detachedFinal h
  | .detachedTask _, .destroyed _ => .error (.resumeDestroyed h)
  | .detachedTask _, _ => .error (.resumeInvalid h)

/-- 走っているフレーム `f` が止まってハンドルを producer に渡し、`f` を再開したジョブが戻る。 -/
def park (w : World) (f : Handle) : World := { w.setLife f .waiting with cur := none }

/-- 一歩。 -/
def step (w : World) : Op → Except Fault World
  | .create i => ((w.alloc .fresh).destroy i).map fun w' => w'.assign i (some w.size)
  | .moveConstruct i j => .ok ((w.assign j (w.vars i)).assign i none)
  | .moveAssign i j =>
      if i = j then .ok w else (w.destroy j).map fun w' => (w'.assign j (w'.vars i)).assign i none
  | .drop i => w.destroy i
  | .start i =>
      match w.vars i with
      | some h => .ok (((w.modify h fun fr => { fr with detached := true }).post h).assign i none)
      | none => .ok w
  | .spawn i => .ok (((w.alloc (.wrapper (w.vars i))).assign i none).post w.size)
  | .postHandle i =>
      match w.vars i with
      | some h => .ok ((w.modify h fun fr => { fr with awaited := true }).post h)
      | none => .ok w
  | .await i =>
      match w.cur with
      | some f => w.coAwait f (w.vars i) .ok
      | none => .ok w
  | .suspend =>
      match w.cur with
      | some f => .ok { w.park f with pending := w.pending ++ [f] }
      | none => .ok w
  | .schedule s =>
      match w.cur with
      | some f => if s then .ok ((w.park f).post f) else .ok w
      | none => .ok w
  | .finish =>
      match w.cur with
      | some f => w.finalSuspend f
      | none => .ok w
  | .produce k =>
      match w.pending.get? k with
      | some h => .ok { w.post h with pending := w.pending.eraseIdx k }
      | none => .ok w
  | .dispatch =>
      match w.cur, w.sched.check with
      | none, .pop h s => { w with sched := s }.resume h
      | _, _ => .ok w

/-- 何もない世界。 -/
def init : World := ⟨fun _ => .fresh, 0, fun _ => none, none, Core.Scheduler.init, []⟩

/-! ## 使い方の決まり -/

/-- タスク値 `t` のフレームはまだ `co_await` されていない。 -/
def Fresh (w : World) (t : Option Handle) : Prop := ∀ g, t = some g → (w.frames g).awaited = false

/-- タスク値 `t` のフレームは走っておらず、途中で止まってもおらず（producer を直に、または
`co_await` した部分タスクを通して待っていない）、再開するジョブに渡されてもいない。 -/
def Idle (w : World) (t : Option Handle) : Prop :=
  ∀ g, t = some g → ((w.frames g).life = .initial ∧ (w.frames g).awaited = false) ∨
    (w.frames g).life = .final

/-- 一歩が使い方の決まりを守る：タスクは高々一度、`co_await` されるか、`start`（`spawn_detached`
の中の `co_await` も含む）されるか、ハンドルを積まれるかで、再開するものに渡される。タスク値は、
そのフレームが `initial_suspend` でまだ誰にも渡されていないか、`final_suspend` で止まっているときに
だけ捨てられる。移動構築の先は新しい変数である。 -/
def Allowed (w : World) : Op → Prop
  | .create i | .drop i => w.Idle (w.vars i)
  | .moveConstruct i j => i ≠ j ∧ w.vars j = none
  | .moveAssign i j => i = j ∨ w.Idle (w.vars j)
  | .start i | .spawn i | .await i | .postHandle i => w.Fresh (w.vars i)
  | _ => True

/-- 操作の列を順に行う。未定義の動作に当たれば、そこで止まってその `Fault` を返す。 -/
def run (w : World) : List Op → Except Fault World
  | [] => .ok w
  | op :: ops => (w.step op).bind fun w' => w'.run ops

/-- 列のどの一歩も、その時点の世界で決まり `r` を守る。 -/
def Obeys (r : World → Op → Prop) (w : World) : List Op → Prop
  | [] => True
  | op :: ops => r w op ∧ ∀ w', w.step op = .ok w' → w'.Obeys r ops

/-! ## 書き換えの補題 -/

@[simp] theorem modify_frames (w : World) (h : Handle) (f : Frame → Frame) :
    (w.modify h f).frames = Function.update w.frames h (f (w.frames h)) := rfl
@[simp] theorem modify_size (w : World) (h : Handle) (f : Frame → Frame) :
    (w.modify h f).size = w.size := rfl
@[simp] theorem modify_vars (w : World) (h : Handle) (f : Frame → Frame) :
    (w.modify h f).vars = w.vars := rfl
@[simp] theorem modify_cur (w : World) (h : Handle) (f : Frame → Frame) :
    (w.modify h f).cur = w.cur := rfl
@[simp] theorem modify_sched (w : World) (h : Handle) (f : Frame → Frame) :
    (w.modify h f).sched = w.sched := rfl
@[simp] theorem modify_pending (w : World) (h : Handle) (f : Frame → Frame) :
    (w.modify h f).pending = w.pending := rfl
@[simp] theorem setLife_frames (w : World) (h : Handle) (l : Life) :
    (w.setLife h l).frames = Function.update w.frames h { w.frames h with life := l } := rfl
@[simp] theorem setLife_size (w : World) (h : Handle) (l : Life) :
    (w.setLife h l).size = w.size := rfl
@[simp] theorem setLife_vars (w : World) (h : Handle) (l : Life) :
    (w.setLife h l).vars = w.vars := rfl
@[simp] theorem setLife_cur (w : World) (h : Handle) (l : Life) :
    (w.setLife h l).cur = w.cur := rfl
@[simp] theorem setLife_sched (w : World) (h : Handle) (l : Life) :
    (w.setLife h l).sched = w.sched := rfl
@[simp] theorem setLife_pending (w : World) (h : Handle) (l : Life) :
    (w.setLife h l).pending = w.pending := rfl
@[simp] theorem park_eq (w : World) (f : Handle) :
    w.park f = { w.setLife f .waiting with cur := none } := rfl
@[simp] theorem alloc_frames (w : World) (fr : Frame) :
    (w.alloc fr).frames = Function.update w.frames w.size fr := rfl
@[simp] theorem alloc_size (w : World) (fr : Frame) : (w.alloc fr).size = w.size + 1 := rfl
@[simp] theorem alloc_vars (w : World) (fr : Frame) : (w.alloc fr).vars = w.vars := rfl
@[simp] theorem alloc_cur (w : World) (fr : Frame) : (w.alloc fr).cur = w.cur := rfl
@[simp] theorem alloc_sched (w : World) (fr : Frame) : (w.alloc fr).sched = w.sched := rfl
@[simp] theorem alloc_pending (w : World) (fr : Frame) : (w.alloc fr).pending = w.pending := rfl
@[simp] theorem assign_vars (w : World) (i : Nat) (t : Option Handle) :
    (w.assign i t).vars = Function.update w.vars i t := rfl
@[simp] theorem assign_frames (w : World) (i : Nat) (t : Option Handle) :
    (w.assign i t).frames = w.frames := rfl
@[simp] theorem assign_size (w : World) (i : Nat) (t : Option Handle) :
    (w.assign i t).size = w.size := rfl
@[simp] theorem assign_cur (w : World) (i : Nat) (t : Option Handle) :
    (w.assign i t).cur = w.cur := rfl
@[simp] theorem assign_sched (w : World) (i : Nat) (t : Option Handle) :
    (w.assign i t).sched = w.sched := rfl
@[simp] theorem assign_pending (w : World) (i : Nat) (t : Option Handle) :
    (w.assign i t).pending = w.pending := rfl
@[simp] theorem post_sched (w : World) (h : Handle) : (w.post h).sched = w.sched.post h := rfl
@[simp] theorem post_frames (w : World) (h : Handle) : (w.post h).frames = w.frames := rfl
@[simp] theorem post_size (w : World) (h : Handle) : (w.post h).size = w.size := rfl
@[simp] theorem post_vars (w : World) (h : Handle) : (w.post h).vars = w.vars := rfl
@[simp] theorem post_cur (w : World) (h : Handle) : (w.post h).cur = w.cur := rfl
@[simp] theorem post_pending (w : World) (h : Handle) : (w.post h).pending = w.pending := rfl

end World

/-- 決まりを守る一歩の列で届く世界。 -/
inductive Reachable : World → Prop
  | init : Reachable World.init
  | step {w w' : World} {op : Op} : Reachable w → w.Allowed op → w.step op = .ok w' → Reachable w'

/-- 決まりを守る一歩の後に決まりを守る列が続く。 -/
theorem World.Obeys.cons {r : World → Op → Prop} {w w₁ : World} {op : Op} {ops : List Op}
    (ha : r w op) (hs : w.step op = .ok w₁) (hr : w₁.Obeys r ops) : w.Obeys r (op :: ops) :=
  ⟨ha, fun w' h => by rw [hs] at h; cases h; exact hr⟩

/-- 決まりを守る列を最後まで行えた世界は届く。 -/
theorem Reachable.run {w w' : World} (hw : Reachable w) {ops : List Op} (ha : w.Obeys World.Allowed ops)
    (hr : w.run ops = .ok w') : Reachable w' := by
  induction ops generalizing w with
  | nil => cases hr; exact hw
  | cons op ops ih =>
      cases hs : w.step op with
      | error f => simp [World.run, hs, Except.bind] at hr
      | ok w₁ =>
          simp only [World.run, hs, Except.bind] at hr
          exact ih (hw.step ha.1 hs) (ha.2 w₁ hs) hr

end Cnerium.Lifetime
