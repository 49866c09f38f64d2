import Mathlib.Logic.Function.Basic

/-!
# タスクの本体と、その逐次評価

`task<T>`・`task<void>` のコルーチンの本体を、`co_return`、例外の送出、`try`/`catch`、部分タスクの
`co_await` から組み立てる。値の型 `V` と例外の型 `E` は任意に取る。`co_await` の後の続きと
`catch` の節は Lean の関数で表すので、本体は有限の木である。

`Body.eval` は本体を上から順に直接評価した結果で、待ち合わせの仕組みを使わない。
`Cnerium.Task.Machine` の実行がこれと一致することを `Cnerium.Task.Refinement` で示す。
-/

namespace Cnerium.Task

/-- コルーチンの本体。 -/
inductive Body (V E : Type)
  /-- ブロックの値。本体の最後では `co_return v`（`task<void>` では `co_return;`）。 -/
  | ret (v : V)
  /-- 例外 `e` を投げる。 -/
  | throw (e : E)
  /-- 本体 `sub` の `task<T>` を作って `co_await` し、得た値で `k` へ進む。`eager` のときは
  `co_await` の前に `handle().resume()` で最後まで走らせておく。 -/
  | await (eager : Bool) (sub : Body V E) (k : V → Body V E)
  /-- 本体 `sub` の `task<void>` を作って `co_await` し、`k` へ進む。 -/
  | awaitVoid (eager : Bool) (sub : Body V E) (k : Body V E)
  /-- `try { b } catch (e) { h e }` の後、得た値で `k` へ進む。 -/
  | tryCatch (b : Body V E) (h : E → Body V E) (k : V → Body V E)

variable {V E : Type}

/-- 本体を上から順に直接評価した結果。`co_await` は部分タスクの本体を評価した結果をその場で返すか、
その例外をその場で投げる。 -/
def Body.eval : Body V E → Except E V
  | .ret v => .ok v
  | .throw e => .error e
  | .await _ sub k =>
      match sub.eval with
      | .ok v => (k v).eval
      | .error e => .error e
  | .awaitVoid _ sub k =>
      match sub.eval with
      | .ok _ => k.eval
      | .error e => .error e
  | .tryCatch b h k =>
      match b.eval with
      | .ok v => (k v).eval
      | .error e =>
          match (h e).eval with
          | .ok v => (k v).eval
          | .error e' => .error e'

/-- 評価の結果を、その結果で終わる本体として書いたもの。 -/
def Body.ofResult : Except E V → Body V E
  | .ok v => .ret v
  | .error e => .throw e

end Cnerium.Task
