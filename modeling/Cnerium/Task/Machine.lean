import Cnerium.Task.Body

/-!
# 待ち合わせの仕組み

`task.hpp` の `promise_common`、`promise_value<T>`、`task_awaiter`、`final_awaiter` を、フレームの並びと
いま走っているフレームを持つ機械として写す。フレームの番号が `coroutine_handle<>` にあたる。

一つのスレッドの上で、`resume()` の呼び出しは入れ子になり（`resumers` が呼び出し元のフレーム）、
`await_suspend` が返すハンドルへの移動（対称転送）は入れ子にならない。`final_awaiter` が
`noop_coroutine()` を返すと、いちばん内側の `resume()` が戻る。`resumers` が空なら、制御は最初に
`resume()` を呼んだ駆動側（根のハンドル `h` についての `while (!h.done()) h.resume();`）へ戻る。

`co_await sub()` の一時オブジェクトの `task` は、式の終わり、つまり `await_resume` の後で破棄される。
-/

namespace Cnerium.Task

/-- `coroutine_handle<>`：フレームの番号。 -/
abbrev Handle := Nat

/-- `promise_common` のフィールドと、`promise_value<T>` の `value`（`task<void>` では使わない）。 -/
structure Promise (V E : Type) where
  continuation : Option Handle
  exception : Option E
  value : Option V
  detached : Bool

variable {V E : Type}

/-- 作られたばかりの約束。 -/
def Promise.init : Promise V E := ⟨none, none, none, false⟩

/-- 本体を抜けたときの書き込み：`return_value(v)`（`value.emplace`）、`return_void()`、
または `unhandled_exception()`（`exception = current_exception()`）。 -/
def Promise.complete (p : Promise V E) (isVoid : Bool) : Except E V → Promise V E
  | .ok v => if isVoid then p else { p with value := some v }
  | .error e => { p with exception := some e }

@[simp] theorem Promise.complete_continuation (p : Promise V E) (isVoid : Bool) (res : Except E V) :
    (p.complete isVoid res).continuation = p.continuation := by
  cases res <;> cases isVoid <;> rfl

@[simp] theorem Promise.complete_detached (p : Promise V E) (isVoid : Bool) (res : Except E V) :
    (p.complete isVoid res).detached = p.detached := by
  cases res <;> cases isVoid <;> rfl

/-- 本体の評価文脈の一段。内側が先頭。 -/
inductive Ctx (V E : Type)
  /-- `try` ブロックの中：例外は `h` が受け、どちらでも抜けたら `k` へ進む。 -/
  | handler (h : E → Body V E) (k : V → Body V E)
  /-- `catch` 節の中：抜けたら `k` へ進む。 -/
  | after (k : V → Body V E)

/-- `co_await` から戻った後の続き。 -/
inductive Resume (V E : Type)
  /-- `task<T>`：`await_resume` が返す値で進む。 -/
  | value (k : V → Body V E)
  /-- `task<void>`。 -/
  | void (k : Body V E)

/-- 待つタスクが `task<void>` か。 -/
def Resume.isVoid : Resume V E → Bool
  | .value _ => false
  | .void _ => true

/-- `task_awaiter::await_resume` が約束から得る続き：例外があれば投げ直し、なければ `task<void>` では
何も返さず、`task<T>` では `assert(p.value.has_value())` の後に値を取り出す。表明が偽なら `none`。 -/
def Promise.resumeBody (p : Promise V E) (r : Resume V E) : Option (Body V E) :=
  match p.exception, r with
  | some e, _ => some (.throw e)
  | none, .void k => some k
  | none, .value k => p.value.map k

/-- フレームのいる位置。 -/
inductive Pc (V E : Type)
  /-- `initial_suspend` で止まっている。 -/
  | initial (body : Body V E)
  /-- 本体を実行している。 -/
  | running (b : Body V E) (ctx : List (Ctx V E))
  /-- `co_await sub` で止まっている。 -/
  | awaiting (sub : Handle) (r : Resume V E) (ctx : List (Ctx V E))
  /-- `sub.handle().resume()` を呼び、その戻りを待っている。 -/
  | resuming (sub : Handle) (r : Resume V E) (ctx : List (Ctx V E))
  /-- `final_suspend` で止まっている。`done()` が真。 -/
  | final
  /-- 破棄された、あるいは割り当てられていない。 -/
  | destroyed

/-- `coroutine_handle::done`。 -/
def Pc.done : Pc V E → Bool
  | .final => true
  | _ => false

/-- コルーチンのフレーム。 -/
structure Frame (V E : Type) where
  isVoid : Bool
  pc : Pc V E
  promise : Promise V E

/-- 割り当てられていない番号のフレーム。 -/
def Frame.none : Frame V E := ⟨false, .destroyed, .init⟩

/-- フレームの並び、次に割り当てる番号、いま走っているフレーム、入れ子の `resume()` の呼び出し元。 -/
structure Machine (V E : Type) where
  frames : Handle → Frame V E
  size : Nat
  cur : Option Handle
  resumers : List Handle

namespace Machine

/-- フレーム `h` の位置を書き換える。 -/
def setPc (m : Machine V E) (h : Handle) (pc : Pc V E) : Machine V E :=
  { m with frames := Function.update m.frames h { m.frames h with pc := pc } }

/-- フレーム `h` の約束を書き換える。 -/
def setPromise (m : Machine V E) (h : Handle) (p : Promise V E) : Machine V E :=
  { m with frames := Function.update m.frames h { m.frames h with promise := p } }

/-- コルーチンの呼び出し：新しいフレームを作り、`initial_suspend` で止める。 -/
def spawn (m : Machine V E) (isVoid : Bool) (body : Body V E) : Machine V E :=
  { m with frames := Function.update m.frames m.size ⟨isVoid, .initial body, .init⟩,
           size := m.size + 1 }

/-- `await_resume` と、その後の一時オブジェクトの `task` の破棄（`h_.destroy()`）。 -/
def awaitResume (m : Machine V E) (h sub : Handle) (r : Resume V E) (ctx : List (Ctx V E)) :
    Option (Machine V E) :=
  ((m.frames sub).promise.resumeBody r).map fun b => (m.setPc h (.running b ctx)).setPc sub .destroyed

/-- `coroutine_handle::resume`：止まっているフレームを走らせる。`co_await` で止まっていたフレームは
`await_resume` から続ける。走っているか終わったフレームの再開は未定義なので `none`。 -/
def resume (m : Machine V E) (h : Handle) : Option (Machine V E) :=
  match (m.frames h).pc with
  | .initial b => some { m.setPc h (.running b []) with cur := some h }
  | .awaiting sub r ctx => (m.awaitResume h sub r ctx).map fun m => { m with cur := some h }
  | _ => none

/-- `co_await` の `task_awaiter`：`await_ready` が真（`h.done()`）なら止まらずに `await_resume`、
偽なら `await_suspend` で `continuation` に自分を書いて `sub` へ移る。 -/
def coAwait (m : Machine V E) (h sub : Handle) (r : Resume V E) (ctx : List (Ctx V E)) :
    Option (Machine V E) :=
  if (m.frames sub).pc.done then m.awaitResume h sub r ctx
  else
    ((m.setPromise sub { (m.frames sub).promise with continuation := some h }).setPc h
      (.awaiting sub r ctx)).resume sub

/-- いちばん内側の `resume()` が戻る。呼び出し元がフレームなら、それは続けて `co_await` する。 -/
def returnToResumer (m : Machine V E) : Option (Machine V E) :=
  match m.resumers with
  | [] => some { m with cur := none }
  | r :: rs =>
      match (m.frames r).pc with
      | .resuming sub rk ctx => { m with resumers := rs, cur := some r }.coAwait r sub rk ctx
      | _ => none

/-- 本体を抜けた：約束に結果を書き、`final_suspend` の `final_awaiter::await_suspend` を実行する。
`continuation` があればそこへ移り、なければ `detached` のとき自分を破棄して、どちらでも
`noop_coroutine()` を返す。 -/
def complete (m : Machine V E) (h : Handle) (res : Except E V) : Option (Machine V E) :=
  let p := (m.frames h).promise.complete (m.frames h).isVoid res
  let m := (m.setPromise h p).setPc h .final
  match p.continuation with
  | some c => m.resume c
  | none => if p.detached then (m.setPc h .destroyed).returnToResumer else m.returnToResumer

/-- 部分タスクを作って待つ。`eager` なら先に `handle().resume()` を呼ぶ。 -/
def call (m : Machine V E) (h : Handle) (eager : Bool) (sub : Body V E) (r : Resume V E)
    (ctx : List (Ctx V E)) : Option (Machine V E) :=
  let n := m.size
  let m := m.spawn r.isVoid sub
  if eager then { m.setPc h (.resuming n r ctx) with resumers := h :: m.resumers }.resume n
  else m.coAwait h n r ctx

/-- 走っているフレーム `h` の本体を一歩進める。 -/
def exec (m : Machine V E) (h : Handle) : Body V E → List (Ctx V E) → Option (Machine V E)
  | .ret v, [] => m.complete h (.ok v)
  | .ret v, .handler _ k :: ctx => some (m.setPc h (.running (k v) ctx))
  | .ret v, .after k :: ctx => some (m.setPc h (.running (k v) ctx))
  | .throw e, [] => m.complete h (.error e)
  | .throw e, .handler hd k :: ctx => some (m.setPc h (.running (hd e) (.after k :: ctx)))
  | .throw e, .after _ :: ctx => some (m.setPc h (.running (.throw e) ctx))
  | .tryCatch b hd k, ctx => some (m.setPc h (.running b (.handler hd k :: ctx)))
  | .await eager sub k, ctx => m.call h eager sub (.value k) ctx
  | .awaitVoid eager sub k, ctx => m.call h eager sub (.void k) ctx

/-- 機械の一歩。駆動側に制御が戻っているとき、または未定義の動作に当たったときは `none`。 -/
def step (m : Machine V E) : Option (Machine V E) :=
  match m.cur with
  | none => none
  | some h =>
      match (m.frames h).pc with
      | .running b ctx => m.exec h b ctx
      | _ => none

/-- 一歩ずつ、止まるまで高々 `n` 歩進める。 -/
def run : Nat → Machine V E → Machine V E
  | 0, m => m
  | n + 1, m =>
      match m.step with
      | some m' => run n m'
      | none => m

/-- 本体 `body` の根のタスクだけがある機械。根は `initial_suspend` で止まっている。 -/
def init (isVoid : Bool) (body : Body V E) : Machine V E :=
  ⟨Function.update (fun _ => .none) 0 ⟨isVoid, .initial body, .init⟩, 1, none, []⟩

/-! ### 書き換えの補題 -/

@[simp] theorem setPc_frames_self (m : Machine V E) (h : Handle) (pc : Pc V E) :
    (m.setPc h pc).frames h = { m.frames h with pc := pc } := by
  simp [setPc]

theorem setPc_frames_ne (m : Machine V E) {h i : Handle} (pc : Pc V E) (hi : i ≠ h) :
    (m.setPc h pc).frames i = m.frames i := by
  simp [setPc, Function.update_noteq hi]

@[simp] theorem setPc_size (m : Machine V E) (h : Handle) (pc : Pc V E) :
    (m.setPc h pc).size = m.size := rfl
@[simp] theorem setPc_cur (m : Machine V E) (h : Handle) (pc : Pc V E) :
    (m.setPc h pc).cur = m.cur := rfl
@[simp] theorem setPc_resumers (m : Machine V E) (h : Handle) (pc : Pc V E) :
    (m.setPc h pc).resumers = m.resumers := rfl

@[simp] theorem setPromise_frames_self (m : Machine V E) (h : Handle) (p : Promise V E) :
    (m.setPromise h p).frames h = { m.frames h with promise := p } := by
  simp [setPromise]

theorem setPromise_frames_ne (m : Machine V E) {h i : Handle} (p : Promise V E) (hi : i ≠ h) :
    (m.setPromise h p).frames i = m.frames i := by
  simp [setPromise, Function.update_noteq hi]

@[simp] theorem setPromise_size (m : Machine V E) (h : Handle) (p : Promise V E) :
    (m.setPromise h p).size = m.size := rfl
@[simp] theorem setPromise_cur (m : Machine V E) (h : Handle) (p : Promise V E) :
    (m.setPromise h p).cur = m.cur := rfl
@[simp] theorem setPromise_resumers (m : Machine V E) (h : Handle) (p : Promise V E) :
    (m.setPromise h p).resumers = m.resumers := rfl

@[simp] theorem spawn_frames_self (m : Machine V E) (isVoid : Bool) (b : Body V E) :
    (m.spawn isVoid b).frames m.size = ⟨isVoid, .initial b, .init⟩ := by
  simp [spawn]

theorem spawn_frames_lt (m : Machine V E) (isVoid : Bool) (b : Body V E) {i : Handle}
    (hi : i < m.size) : (m.spawn isVoid b).frames i = m.frames i := by
  simp [spawn, Function.update_noteq (Nat.ne_of_lt hi)]

@[simp] theorem spawn_size (m : Machine V E) (isVoid : Bool) (b : Body V E) :
    (m.spawn isVoid b).size = m.size + 1 := rfl
@[simp] theorem spawn_cur (m : Machine V E) (isVoid : Bool) (b : Body V E) :
    (m.spawn isVoid b).cur = m.cur := rfl
@[simp] theorem spawn_resumers (m : Machine V E) (isVoid : Bool) (b : Body V E) :
    (m.spawn isVoid b).resumers = m.resumers := rfl

/-- 走っているフレームの一歩は、その本体の一歩である。 -/
theorem step_running {m : Machine V E} {c : Handle} {b : Body V E} {ctx : List (Ctx V E)}
    (hc : m.cur = some c) (hpc : (m.frames c).pc = .running b ctx) : m.step = m.exec c b ctx := by
  simp [step, hc, hpc]

end Machine

/-- 根のタスクの駆動：根のタスク自身のハンドルに `resume()` を呼び、制御が戻るまで機械を進める。
`sync_await` のループ `while (!h.done()) h.resume();` を根のハンドルにじかに当てたもので、`sync_await` が
根を包む `runner` のコルーチン（その一時オブジェクトの `task<void>` は、ループの前の式の終わりで壊れる）
と、`T value{}` は写さない。 -/
def syncAwait (fuel : Nat) (isVoid : Bool) (body : Body V E) : Option (Machine V E) :=
  ((Machine.init isVoid body).resume 0).map (Machine.run fuel)

end Cnerium.Task
