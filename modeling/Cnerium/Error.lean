import Mathlib.Logic.Function.Basic

/-!
# エラーの種類

`error.hpp` の `errc`、`error_category`、`make_error_code` と、`cancel.hpp` の `cancelled_ec` を写す。
`vix::async::core` と `cnerium::core` の二つの写しは `name()` の文字列だけが違うので、分類は名前だけを
持つ。

`message(int c)` は `switch (static_cast<errc>(c))` で枝を選ぶ。`errc` の基底型は `std::uint8_t` なので、
`int` から `errc` への変換は `std::uint8_t` への整数変換、つまり `2^8` を法とする剰余を経る。
-/

namespace Cnerium.Core

/-- `errc`。 -/
inductive Errc
  | ok
  | invalidArgument
  | notReady
  | timeout
  | canceled
  | closed
  | overflow
  | stopped
  | queueFull
  | rejected
  | notSupported
deriving DecidableEq, Repr

/-- `enum class errc : std::uint8_t` の値。 -/
def Errc.toUInt8 : Errc → UInt8
  | .ok => 0
  | .invalidArgument => 1
  | .notReady => 2
  | .timeout => 3
  | .canceled => 4
  | .closed => 5
  | .overflow => 6
  | .stopped => 7
  | .queueFull => 8
  | .rejected => 9
  | .notSupported => 10

/-- `switch` が選ぶ `case`：値が `v` の列挙子。どの列挙子でもなければ `default` の枝。 -/
def Errc.ofUInt8? (v : UInt8) : Option Errc :=
  match v.toNat with
  | 0 => some .ok
  | 1 => some .invalidArgument
  | 2 => some .notReady
  | 3 => some .timeout
  | 4 => some .canceled
  | 5 => some .closed
  | 6 => some .overflow
  | 7 => some .stopped
  | 8 => some .queueFull
  | 9 => some .rejected
  | 10 => some .notSupported
  | _ => none

/-- 各 `case` が返す文言。 -/
def Errc.message : Errc → String
  | .ok => "ok"
  | .invalidArgument => "invalid argument"
  | .notReady => "not ready"
  | .timeout => "timeout"
  | .canceled => "canceled"
  | .closed => "closed"
  | .overflow => "overflow"
  | .stopped => "stopped"
  | .queueFull => "queue full"
  | .rejected => "rejected"
  | .notSupported => "not supported"

/-- `static_cast<errc>(c)`：`std::uint8_t` への整数変換。 -/
def castErrc (c : Int) : UInt8 := UInt8.ofNat (c % 256).toNat

/-- `error_category::message`。 -/
def message (c : Int) : String :=
  match Errc.ofUInt8? (castErrc c) with
  | some e => e.message
  | none => "unknown error"

/-- `error_category`：二つの写しで違うのは `name()` だけ。 -/
structure ErrorCategory where
  name : String
deriving DecidableEq, Repr

/-- `vix::async::core::category()`。 -/
def asyncCategory : ErrorCategory := ⟨"async"⟩

/-- `cnerium::core::category()`。 -/
def cneriumCategory : ErrorCategory := ⟨"cnerium"⟩

/-- `std::error_code`：値と分類。`message()` は分類の `message(value())`。 -/
structure ErrorCode where
  value : Int
  category : ErrorCategory
deriving DecidableEq, Repr

def ErrorCode.message (ec : ErrorCode) : String := Core.message ec.value

/-- `make_error_code`。 -/
def makeErrorCode (cat : ErrorCategory) (e : Errc) : ErrorCode := ⟨e.toUInt8.toNat, cat⟩

/-- `cancelled_ec`。 -/
def cancelledEc (cat : ErrorCategory) : ErrorCode := makeErrorCode cat .canceled

/-- `message` は値を `2^8` を法として読む：`256` は `"ok"`、`-252` は `"canceled"`、`11` は
`"unknown error"` になる。 -/
example : message 256 = "ok" ∧ message (-252) = "canceled" ∧ message 11 = "unknown error" ∧
    (cancelledEc cneriumCategory).message = "canceled" := ⟨rfl, rfl, rfl, rfl⟩

end Cnerium.Core
