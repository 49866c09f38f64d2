import Mathlib.Logic.Function.Basic

/-!
# ログの出力

`log.hpp` の `detail::log` を、任意個のスレッドが交互に呼ぶ系として写す。`g_log_level` は
`set_log_level` が書き、`log` が読む共有の値で、読み書きを一つの遷移にする（`memory_order_relaxed`
の読みが古い値を返しうることは写さず、交互実行の順に読む）。`log` の中は、水準を読んで比べる区間、
`g_log_mutex` を取って時刻を読む区間、`std::cerr` への `<<` 一つずつ、`lvl == fatal` を調べて
`std::abort()` するかロックを離して戻る区間に分ける。`abort()` の後は何も動かない。

`std::cerr` は書かれた片の列で、`lines` はロックを離すまで書き終えた行の記録である。
-/

namespace Cnerium.Log

/-- `log_level`。 -/
inductive LogLevel
  | trace
  | debug
  | info
  | warn
  | error
  | fatal
  | off
deriving DecidableEq, Repr

/-- `enum class log_level : int` の値。 -/
def LogLevel.toNat : LogLevel → Nat
  | .trace => 0
  | .debug => 1
  | .info => 2
  | .warn => 3
  | .error => 4
  | .fatal => 5
  | .off => 6

/-- `to_string`。`off` は `default` の枝に落ちる。 -/
def toString : LogLevel → String
  | .trace => "Trace"
  | .debug => "Debug"
  | .info => "Info"
  | .warn => "Warn"
  | .error => "Error"
  | .fatal => "Fatal"
  | _ => "Of"

/-- `log` が `std::cerr` に `<<` で書く片。`ts` は `strftime` が `"%H:%M:%S"` で書いた時刻。 -/
def pieces (ts : String) (lvl : LogLevel) (msg : String) : List String :=
  ["[", ts, "] ", "[", toString lvl, "] ", msg, "\n"]

@[simp] theorem pieces_length (ts : String) (lvl : LogLevel) (msg : String) :
    (pieces ts lvl msg).length = 8 := rfl

/-- 書き終えた一行。 -/
structure Line where
  lvl : LogLevel
  ts : String
  msg : String
deriving DecidableEq, Repr

/-- 行の片。 -/
def Line.render (l : Line) : List String := pieces l.ts l.lvl l.msg

/-- `log` を呼んだスレッドの位置。 -/
inductive Pc
  /-- 呼び出しの外。 -/
  | idle
  /-- 水準の比較を通り、`lock_guard` でロックを待つ。 -/
  | locking (lvl : LogLevel) (msg : String)
  /-- ロックを持ち、時刻 `ts` を読み、`<<` を `k` 回終えた。 -/
  | writing (lvl : LogLevel) (ts msg : String) (k : Nat)
deriving DecidableEq, Repr

/-- ロックの下にいる。 -/
def Pc.holding : Pc → Bool
  | .writing .. => true
  | _ => false

/-- 交互実行の状態。 -/
structure World where
  /-- `g_log_level`。 -/
  level : LogLevel
  /-- `g_log_mutex` を持つスレッド。 -/
  owner : Option Nat
  pcs : Nat → Pc
  /-- `std::cerr` に書かれた片。 -/
  err : List String
  /-- `std::abort()` が呼ばれた。 -/
  aborted : Bool
  /-- 書き終えてロックを離した行。 -/
  lines : List Line

/-- 始めの状態：`g_log_level{log_level::info}`。 -/
def World.init : World := ⟨.info, none, fun _ => .idle, [], false, []⟩

/-- 交互実行の一歩。 -/
inductive Event
  /-- スレッド `t` が `log(lvl, msg)` を呼び、`lvl < get_log_level()` を評価する。 -/
  | call (t : Nat) (lvl : LogLevel) (msg : String)
  /-- `set_log_level(lvl)`。 -/
  | setLogLevel (lvl : LogLevel)
  /-- スレッド `t` がロックを取り、時刻 `ts` を読む。 -/
  | acquire (t : Nat) (ts : String)
  /-- スレッド `t` の次の `<<`。 -/
  | write (t : Nat)
  /-- スレッド `t` が `lvl == log_level::fatal` を調べ、`abort()` するか、ロックを離して戻る。 -/
  | finish (t : Nat)
deriving DecidableEq, Repr

/-- 一歩を動かすスレッド。`set_log_level` はどのスレッドの `log` の中の一歩でもない。 -/
def Event.actor : Event → Option Nat
  | .call t _ _ | .acquire t _ | .write t | .finish t => some t
  | .setLogLevel _ => none

/-- `abort()` の前の一歩。その一歩ができないときは `none`。 -/
def World.perform (w : World) : Event → Option World
  | .call t lvl msg =>
      match w.pcs t with
      | .idle => some (if lvl.toNat < w.level.toNat then w
                       else { w with pcs := Function.update w.pcs t (.locking lvl msg) })
      | _ => none
  | .setLogLevel lvl => some { w with level := lvl }
  | .acquire t ts =>
      match w.pcs t, w.owner with
      | .locking lvl msg, none =>
          some { w with owner := some t, pcs := Function.update w.pcs t (.writing lvl ts msg 0) }
      | _, _ => none
  | .write t =>
      match w.pcs t with
      | .writing lvl ts msg k =>
          match (pieces ts lvl msg)[k]? with
          | some p => some { w with err := w.err ++ [p],
                                    pcs := Function.update w.pcs t (.writing lvl ts msg (k + 1)) }
          | none => none
      | _ => none
  | .finish t =>
      match w.pcs t with
      | .writing lvl ts msg k =>
          if k = (pieces ts lvl msg).length then
            if lvl = .fatal then some { w with aborted := true }
            else some { w with owner := none, pcs := Function.update w.pcs t .idle,
                               lines := w.lines ++ [⟨lvl, ts, msg⟩] }
          else none
      | _ => none

/-- 一歩。`abort()` の後は何も動かない。 -/
def World.step (w : World) (e : Event) : Option World :=
  if w.aborted then none else w.perform e

/-- 一歩ずつ進める。 -/
def World.run (w : World) : List Event → Option World
  | [] => some w
  | e :: es => (w.step e).bind fun w' => w'.run es

theorem World.run_append (w : World) (es fs : List Event) :
    w.run (es ++ fs) = (w.run es).bind fun w' => w'.run fs := by
  induction es generalizing w with
  | nil => rfl
  | cons e es ih => cases h : w.step e <;> simp [World.run, h, ih]

/-- 初めの状態から交互実行で届く状態。 -/
inductive Reachable : World → Prop
  | init : Reachable .init
  | step {w w' : World} (e : Event) : Reachable w → w.step e = some w' → Reachable w'

theorem Reachable.run {w w' : World} (hw : Reachable w) {es : List Event}
    (h : w.run es = some w') : Reachable w' := by
  induction es generalizing w with
  | nil => cases h; exact hw
  | cons e es ih =>
      obtain ⟨w₁, h₁, h₂⟩ := Option.bind_eq_some.1 h
      exact ih (.step e hw h₁) h₂

/-- 一歩ずつ進めた先は届く。できない一歩があれば元の状態に留まる。 -/
theorem Reachable.getD {w : World} (hw : Reachable w) (es : List Event) :
    Reachable ((w.run es).getD w) := by
  cases h : w.run es with
  | none => exact hw
  | some w' => exact hw.run h

/-! ## ロックの下の行 -/

/-- ロックを持つスレッドが書いた、行の途中までの片。 -/
def World.unfinished (w : World) : List String :=
  match w.owner with
  | none => []
  | some t =>
      match w.pcs t with
      | .writing lvl ts msg k => (pieces ts lvl msg).take k
      | _ => []

theorem World.unfinished_none {w : World} (h : w.owner = none) : w.unfinished = [] := by
  simp [World.unfinished, h]

theorem World.unfinished_some {w : World} {t : Nat} {lvl : LogLevel} {ts msg : String} {k : Nat}
    (h : w.owner = some t) (hp : w.pcs t = .writing lvl ts msg k) :
    w.unfinished = (pieces ts lvl msg).take k := by
  simp [World.unfinished, h, hp]

/-- 交互実行で保たれる性質。 -/
structure World.Inv (w : World) : Prop where
  /-- ロックを持つのは、ちょうどロックの下にいるスレッド。 -/
  owner_iff : ∀ t, w.owner = some t ↔ (w.pcs t).holding = true
  /-- `<<` の回数は片の数を超えない。 -/
  written_le : ∀ t lvl ts msg k, w.pcs t = .writing lvl ts msg k → k ≤ 8
  /-- `std::cerr` は、書き終えた行を順に並べた後に、ロックの下の行の書いた分が続く。 -/
  err_eq : w.err = (w.lines.map Line.render).flatten ++ w.unfinished
  /-- ロックを離した行は fatal でない。 -/
  lines_not_fatal : ∀ l ∈ w.lines, l.lvl ≠ .fatal
  /-- `abort()` したのは、fatal の行を書き終えてロックを持つスレッド。 -/
  aborted_fatal : w.aborted = true →
    ∃ t ts msg, w.owner = some t ∧ w.pcs t = .writing .fatal ts msg 8

theorem inv_init : World.init.Inv where
  owner_iff _ := by simp [World.init, Pc.holding]
  written_le _ _ _ _ _ h := by cases h
  err_eq := rfl
  lines_not_fatal _ h := by cases h
  aborted_fatal h := by cases h

section Preservation

variable {w : World} (hi : w.Inv)
include hi

theorem World.Inv.owner_ne {t u : Nat} (hu : w.owner = some u) (ht : (w.pcs t).holding = false) :
    u ≠ t := by
  rintro rfl; simp [(hi.owner_iff u).1 hu] at ht

/-- ロックの外のスレッドの位置を、ロックの外の位置に変える。 -/
theorem World.Inv.outside {t : Nat} {p : Pc} (ht : (w.pcs t).holding = false)
    (hp : p.holding = false) : { w with pcs := Function.update w.pcs t p }.Inv := by
  have hun : { w with pcs := Function.update w.pcs t p }.unfinished = w.unfinished := by
    cases ho : w.owner with
    | none => simp [World.unfinished, ho]
    | some u => simp [World.unfinished, ho, Function.update_noteq (hi.owner_ne ho ht)]
  refine ⟨fun u => ?_, fun u lvl ts msg k h => ?_, by rw [hun]; exact hi.err_eq,
    hi.lines_not_fatal, fun h => ?_⟩
  · rcases eq_or_ne u t with rfl | hu
    · simp only [Function.update_same, hp, Bool.false_eq_true, iff_false]
      exact fun h => by simp [(hi.owner_iff u).1 h] at ht
    · simpa [hu] using hi.owner_iff u
  · rcases eq_or_ne u t with rfl | hu
    · simp only [Function.update_same] at h; subst h; simp [Pc.holding] at hp
    · exact hi.written_le u lvl ts msg k (by simpa [hu] using h)
  · obtain ⟨u, ts, msg, ho, hu⟩ := hi.aborted_fatal h
    exact ⟨u, ts, msg, ho, by simpa [hi.owner_ne ho ht] using hu⟩

theorem World.Inv.acquire {t : Nat} {lvl : LogLevel} {msg : String} (ts : String)
    (ht : w.pcs t = .locking lvl msg)
    (ho : w.owner = none) (ha : w.aborted = false) :
    { w with owner := some t, pcs := Function.update w.pcs t (.writing lvl ts msg 0) }.Inv := by
  refine ⟨fun u => ?_, fun u lvl' ts' msg' k h => ?_, ?_, hi.lines_not_fatal, by simp [ha]⟩
  · rcases eq_or_ne u t with rfl | hu
    · simp [Pc.holding]
    · have := hi.owner_iff u
      simp only [ho, reduceCtorEq, false_iff, Bool.not_eq_true] at this
      simp [hu, Ne.symm hu, this]
  · rcases eq_or_ne u t with rfl | hu
    · simp at h; omega
    · exact hi.written_le u lvl' ts' msg' k (by simpa [hu] using h)
  · rw [World.unfinished_some rfl (Function.update_same _ _ _), List.take_zero, hi.err_eq,
      World.unfinished_none ho]

theorem World.Inv.write {t : Nat} {lvl : LogLevel} {ts msg p : String} {k : Nat}
    (ht : w.pcs t = .writing lvl ts msg k) (hp : (pieces ts lvl msg)[k]? = some p) :
    { w with err := w.err ++ [p],
             pcs := Function.update w.pcs t (.writing lvl ts msg (k + 1)) }.Inv := by
  have ho : w.owner = some t := (hi.owner_iff t).2 (by simp [ht, Pc.holding])
  have hk : k < 8 := by simpa using (List.getElem?_eq_some_iff.1 hp).1
  refine ⟨fun u => ?_, fun u lvl' ts' msg' k' h => ?_, ?_, hi.lines_not_fatal, fun h => ?_⟩
  · rcases eq_or_ne u t with rfl | hu
    · simp [ho, Pc.holding]
    · simpa [hu] using hi.owner_iff u
  · rcases eq_or_ne u t with rfl | hu
    · simp at h; omega
    · exact hi.written_le u lvl' ts' msg' k' (by simpa [hu] using h)
  · have hun : { w with err := w.err ++ [p],
                        pcs := Function.update w.pcs t (.writing lvl ts msg (k + 1)) }.unfinished =
        (pieces ts lvl msg).take (k + 1) := World.unfinished_some ho (by simp)
    rw [hun, List.take_succ, hp, hi.err_eq, World.unfinished_some ho ht]
    simp
  · obtain ⟨u, ts', msg', ho', hu⟩ := hi.aborted_fatal h
    cases Option.some.inj (ho.symm.trans ho')
    simp [ht] at hu; omega

theorem World.Inv.release {t : Nat} {lvl : LogLevel} {ts msg : String}
    (ht : w.pcs t = .writing lvl ts msg 8) (hf : lvl ≠ .fatal) (ha : w.aborted = false) :
    { w with owner := none, pcs := Function.update w.pcs t .idle,
             lines := w.lines ++ [Line.mk lvl ts msg] }.Inv := by
  have ho : w.owner = some t := (hi.owner_iff t).2 (by simp [ht, Pc.holding])
  refine ⟨fun u => ?_, fun u lvl' ts' msg' k h => ?_, ?_, fun l hl => ?_, by simp [ha]⟩
  · rcases eq_or_ne u t with rfl | hu
    · simp [Pc.holding]
    · simp only [Function.update_noteq hu, reduceCtorEq, false_iff, Bool.not_eq_true]
      simpa [ho, hu.symm] using (hi.owner_iff u).not
  · rcases eq_or_ne u t with rfl | hu
    · simp at h
    · exact hi.written_le u lvl' ts' msg' k (by simpa [hu] using h)
  · rw [World.unfinished_none rfl, hi.err_eq, World.unfinished_some ho ht,
      List.take_of_length_le (by simp)]
    simp [Line.render]
  · rcases List.mem_append.1 hl with hl | hl
    · exact hi.lines_not_fatal l hl
    · simp at hl; subst hl; exact hf

theorem World.Inv.abort {t : Nat} {ts msg : String} (ht : w.pcs t = .writing .fatal ts msg 8) :
    { w with aborted := true }.Inv :=
  ⟨hi.owner_iff, hi.written_le, hi.err_eq, hi.lines_not_fatal,
    fun _ => ⟨t, ts, msg, (hi.owner_iff t).2 (by simp [ht, Pc.holding]), ht⟩⟩

end Preservation

theorem World.Inv.step {w w' : World} {e : Event} (hi : w.Inv) (h : w.step e = some w') :
    w'.Inv := by
  unfold World.step at h
  split_ifs at h with ha
  simp only [Bool.not_eq_true] at ha
  cases e with
  | call t lvl msg =>
      cases ht : w.pcs t <;> simp only [World.perform, ht, reduceCtorEq] at h
      cases h; split_ifs
      · exact hi
      · exact hi.outside (by simp [ht, Pc.holding]) rfl
  | setLogLevel lvl =>
      cases h; exact ⟨hi.owner_iff, hi.written_le, hi.err_eq, hi.lines_not_fatal, hi.aborted_fatal⟩
  | acquire t ts =>
      cases ht : w.pcs t <;> cases ho : w.owner <;> simp only [World.perform, ht, ho, reduceCtorEq] at h
      cases h; exact hi.acquire ts ht ho ha
  | write t =>
      cases ht : w.pcs t <;> simp only [World.perform, ht, reduceCtorEq] at h
      split at h
      · cases h; exact hi.write ht ‹_›
      · cases h
  | finish t =>
      cases ht : w.pcs t <;> simp only [World.perform, ht, reduceCtorEq] at h
      split_ifs at h with hk hf <;> cases h
      · subst hf; simp at hk; subst hk; exact hi.abort ht
      · simp at hk; subst hk; exact hi.release ht hf ha

theorem Reachable.inv {w : World} (hw : Reachable w) : w.Inv := by
  induction hw with
  | init => exact inv_init
  | step _ _ h ih => exact ih.step h

theorem World.Inv.run {w w' : World} (hi : w.Inv) {es : List Event} (h : w.run es = some w') :
    w'.Inv := by
  induction es generalizing w with
  | nil => cases h; exact hi
  | cons e es ih =>
      obtain ⟨w₁, h₁, h₂⟩ := Option.bind_eq_some.1 h
      exact ih (hi.step h₁) h₂

/-! ## 行は混ざらない -/

/-- 任意個のスレッドが `log` と `set_log_level` をどう交互に呼んでも、ロックの下にいるスレッドは高々一つで、
`std::cerr` は、ロックを離した行を順に並べたものに、ロックの下のスレッドの行の先頭の部分が続く。 -/
theorem log_lines_never_interleave {w : World} (hw : Reachable w) :
    (∀ t u, (w.pcs t).holding = true → (w.pcs u).holding = true → t = u) ∧
    ∃ rest, w.err = (w.lines.map Line.render).flatten ++ rest ∧
      (rest = [] ∨ ∃ t lvl ts msg k, w.pcs t = .writing lvl ts msg k ∧ rest <+: pieces ts lvl msg) := by
  have hi := hw.inv
  refine ⟨fun t u ht hu => Option.some.inj (((hi.owner_iff t).2 ht).symm.trans ((hi.owner_iff u).2 hu)),
    w.unfinished, hi.err_eq, ?_⟩
  cases ho : w.owner with
  | none => exact .inl (World.unfinished_none ho)
  | some t =>
      have ht := (hi.owner_iff t).1 ho
      cases hp : w.pcs t with
      | writing lvl ts msg k =>
          exact .inr ⟨t, lvl, ts, msg, k, hp, World.unfinished_some ho hp ▸ List.take_prefix _ _⟩
      | _ => simp [hp, Pc.holding] at ht

/-- スレッド 0 と 2 が呼び、2 は水準で落とされ、0 がロックの下で二片を書いたところに、1 が来る。 -/
theorem log_lines_never_interleave_racing :
    let w := (World.init.run [.call 0 .warn "a", .call 2 .debug "c", .acquire 0 "t", .write 0,
      .write 0, .call 1 .info "b"]).getD .init
    w.err = ["[", "t"] ∧ w.pcs 1 = .locking .info "b" ∧
    (∀ t u, (w.pcs t).holding = true → (w.pcs u).holding = true → t = u) ∧
    ∃ rest, w.err = (w.lines.map Line.render).flatten ++ rest ∧
      (rest = [] ∨ ∃ t lvl ts msg k, w.pcs t = .writing lvl ts msg k ∧ rest <+: pieces ts lvl msg) :=
  ⟨rfl, rfl, log_lines_never_interleave (Reachable.init.getD _)⟩

/-- ロックを離した行は fatal でない。`abort()` した後の `std::cerr` は、ロックを離した行に fatal の行
一つがそのまま続いたもので、それより後には何も起きない。 -/
theorem fatal_line_ends_output {w : World} (hw : Reachable w) :
    (∀ l ∈ w.lines, l.lvl ≠ .fatal) ∧
    (w.aborted = true → (∃ ts msg, w.err = (w.lines.map Line.render).flatten ++ pieces ts .fatal msg) ∧
      ∀ e, w.step e = none) := by
  have hi := hw.inv
  refine ⟨hi.lines_not_fatal, fun ha => ⟨?_, fun e => by simp [World.step, ha]⟩⟩
  obtain ⟨t, ts, msg, ho, ht⟩ := hi.aborted_fatal ha
  exact ⟨ts, msg, by rw [hi.err_eq, World.unfinished_some ho ht, List.take_of_length_le (by simp)]⟩

/-- 一行を書き終えた後に fatal を書いて `abort()` したところ。 -/
theorem fatal_line_ends_output_aborted :
    let w := (World.init.run ([.call 0 .warn "a", .acquire 0 "t"] ++ List.replicate 8 (.write 0) ++
      [.finish 0, .call 1 .fatal "x", .acquire 1 "u"] ++ List.replicate 8 (.write 1) ++
      [.finish 1])).getD .init
    w.aborted = true ∧ (∀ l ∈ w.lines, l.lvl ≠ .fatal) ∧
    (w.aborted = true → (∃ ts msg, w.err = (w.lines.map Line.render).flatten ++ pieces ts .fatal msg) ∧
      ∀ e, w.step e = none) :=
  ⟨rfl, fatal_line_ends_output (Reachable.init.getD _)⟩

/-! ## ロックは離される -/

theorem World.run_trans {w w₁ w₂ : World} {es fs : List Event} (h₁ : w.run es = some w₁)
    (h₂ : w₁.run fs = some w₂) : w.run (es ++ fs) = some w₂ := by
  rw [World.run_append, h₁]; exact h₂

theorem World.run_single {w w' : World} {e : Event} (h : w.step e = some w') :
    w.run [e] = some w' := by
  simp [World.run, h]

theorem World.step_acquire {w : World} {t : Nat} {lvl : LogLevel} {msg : String}
    (ha : w.aborted = false) (ht : w.pcs t = .locking lvl msg) (ho : w.owner = none) (ts : String) :
    w.step (.acquire t ts) =
      some { w with owner := some t, pcs := Function.update w.pcs t (.writing lvl ts msg 0) } := by
  simp [World.step, ha, World.perform, ht, ho]

theorem World.step_write {w : World} {t : Nat} {lvl : LogLevel} {ts msg : String} {k : Nat}
    (ha : w.aborted = false) (ht : w.pcs t = .writing lvl ts msg k)
    (hk : k < (pieces ts lvl msg).length) :
    w.step (.write t) = some { w with err := w.err ++ [(pieces ts lvl msg)[k]],
                                      pcs := Function.update w.pcs t (.writing lvl ts msg (k + 1)) } := by
  simp [World.step, ha, World.perform, ht, List.getElem?_eq_getElem hk]

theorem World.step_finish {w : World} {t : Nat} {lvl : LogLevel} {ts msg : String}
    (ha : w.aborted = false) (ht : w.pcs t = .writing lvl ts msg 8) :
    w.step (.finish t) = some (if lvl = .fatal then { w with aborted := true }
      else { w with owner := none, pcs := Function.update w.pcs t .idle,
                    lines := w.lines ++ [Line.mk lvl ts msg] }) := by
  by_cases hf : lvl = .fatal <;> simp [World.step, ha, World.perform, ht, hf]

/-- ロックの下のスレッドは、残りの `<<` を続けて書ける。 -/
theorem World.run_writes {t : Nat} {lvl : LogLevel} {ts msg : String} (n : Nat) :
    ∀ k (w : World), k + n = 8 → w.aborted = false → w.pcs t = .writing lvl ts msg k →
      ∃ w', w.run (List.replicate n (.write t)) = some w' ∧ w'.aborted = false ∧
        w'.owner = w.owner ∧ w'.pcs = Function.update w.pcs t (.writing lvl ts msg 8) := by
  induction n with
  | zero =>
      intro k w hk ha ht
      obtain rfl : k = 8 := hk
      exact ⟨w, rfl, ha, rfl, by rw [← ht, Function.update_eq_self]⟩
  | succ n ih =>
      intro k w hk ha ht
      have hk' : k < (pieces ts lvl msg).length := by simp; omega
      obtain ⟨w', h, ha', ho', hp'⟩ := ih (k + 1)
        { w with err := w.err ++ [(pieces ts lvl msg)[k]],
                 pcs := Function.update w.pcs t (.writing lvl ts msg (k + 1)) }
        (by omega) ha (by simp)
      refine ⟨w', ?_, ha', ho', by simp [hp']⟩
      rw [List.replicate_succ, World.run, World.step_write ha ht hk']
      exact h

/-- 残りの `<<` と終わりの一歩は、どれもそのスレッドの一歩である。 -/
theorem Event.actor_drain {t n : Nat} {e : Event}
    (he : e ∈ List.replicate n (.write t) ++ [.finish t]) : e.actor = some t := by
  rcases List.mem_append.1 he with he | he
  · rw [List.eq_of_mem_replicate he]; rfl
  · rw [List.mem_singleton.1 he]; rfl

/-- ロックの下のスレッドは、続けて動けば `log` から戻るか `abort()` する。ロックを離すと、
そのスレッドの外の位置は変わっていない。 -/
theorem World.Inv.drain {w : World} (hi : w.Inv) (ha : w.aborted = false) {t : Nat}
    {lvl : LogLevel} {ts msg : String} {k : Nat} (ht : w.pcs t = .writing lvl ts msg k) :
    ∃ w', w.run (List.replicate (8 - k) (.write t) ++ [.finish t]) = some w' ∧
      (w'.aborted = true ∨
        (w'.aborted = false ∧ w'.owner = none ∧ w'.pcs = Function.update w.pcs t .idle)) := by
  have hk := hi.written_le t lvl ts msg k ht
  obtain ⟨w₁, h₁, ha₁, -, hp₁⟩ := World.run_writes (8 - k) k w (by omega) ha ht
  have ht₁ : w₁.pcs t = .writing lvl ts msg 8 := by simp [hp₁]
  have h₂ := World.step_finish ha₁ ht₁
  by_cases hf : lvl = .fatal
  · rw [if_pos hf] at h₂
    exact ⟨_, World.run_trans h₁ (World.run_single h₂), .inl rfl⟩
  · rw [if_neg hf] at h₂
    exact ⟨_, World.run_trans h₁ (World.run_single h₂), .inr ⟨ha₁, rfl, by simp [hp₁]⟩⟩

/-- ロックを待つスレッドは、ロックが空いていれば、取って書いて戻るか `abort()` する。 -/
theorem World.Inv.acquire_returns {w : World} (hi : w.Inv) (ha : w.aborted = false) {t : Nat}
    {lvl : LogLevel} {msg : String} (ht : w.pcs t = .locking lvl msg) (ho : w.owner = none) :
    ∃ es w', es.length ≤ 10 ∧ (∀ e ∈ es, e.actor = some t) ∧ w.run es = some w' ∧
      (w'.pcs t = .idle ∨ w'.aborted = true) := by
  have hi₁ := hi.acquire "" ht ho ha
  obtain ⟨w', h, hw'⟩ := hi₁.drain ha (Function.update_same _ _ _)
  refine ⟨.acquire t "" :: (List.replicate 8 (.write t) ++ [.finish t]), w', by simp,
    List.forall_mem_cons.2 ⟨rfl, fun _ => Event.actor_drain⟩, ?_, ?_⟩
  · rw [World.run, World.step_acquire ha ht ho]
    exact h
  · rcases hw' with hw' | ⟨-, -, hp⟩
    · exact .inr hw'
    · exact .inl (by simp [hp])

/-- `log` は行き詰まらない：`abort()` の前のどの状態からも、`log` の中にいるスレッドは、ロックを
持つスレッドが続けて動き、次に自分が続けて動けば、合わせて 19 歩以内で戻るか `abort()` する。ロックを
待っていても、ロックの下で行の途中にいても同じである。 -/
theorem log_call_returns {w : World} (hw : Reachable w) (ha : w.aborted = false) (t : Nat) :
    ∃ es₁ es₂ w', (∀ e ∈ es₁, ∃ u, w.owner = some u ∧ e.actor = some u) ∧
      (∀ e ∈ es₂, e.actor = some t) ∧ (es₁ ++ es₂).length ≤ 19 ∧
      w.run (es₁ ++ es₂) = some w' ∧ (w'.pcs t = .idle ∨ w'.aborted = true) := by
  have hi := hw.inv
  cases ht : w.pcs t with
  | idle => exact ⟨[], [], w, by simp, by simp, by simp, rfl, .inl ht⟩
  | writing lvl ts msg k =>
      obtain ⟨w', h, hw'⟩ := hi.drain ha ht
      refine ⟨[], _, w', by simp, fun _ => Event.actor_drain, by simp; omega, h, ?_⟩
      rcases hw' with hw' | ⟨-, -, hp⟩
      · exact .inr hw'
      · exact .inl (by simp [hp])
  | locking lvl msg =>
      cases ho : w.owner with
      | none =>
          obtain ⟨es, w', hl, hes, h, hw'⟩ := hi.acquire_returns ha ht ho
          exact ⟨[], es, w', by simp, hes, by simp; omega, h, hw'⟩
      | some u =>
          have hu := (hi.owner_iff u).1 ho
          cases hpu : w.pcs u with
          | writing lvl' ts' msg' k' =>
              have hne : u ≠ t := by rintro rfl; simp [ht] at hpu
              have hby : ∀ e ∈ List.replicate (8 - k') (Event.write u) ++ [.finish u], ∃ v,
                  some u = some v ∧ e.actor = some v := fun _ he => ⟨u, rfl, Event.actor_drain he⟩
              obtain ⟨w₁, h₁, hw₁⟩ := hi.drain ha hpu
              rcases hw₁ with hw₁ | ⟨ha₁, ho₁, hp₁⟩
              · exact ⟨_, [], w₁, hby, by simp, by simp; omega, by simpa using h₁, .inr hw₁⟩
              · have ht₁ : w₁.pcs t = .locking lvl msg := by
                  simp [hp₁, Function.update_noteq hne.symm, ht]
                obtain ⟨es, w', hl, hes, h, hw'⟩ := (hi.run h₁).acquire_returns ha₁ ht₁ ho₁
                exact ⟨_, es, w', hby, hes, by simp; omega, World.run_trans h₁ h, hw'⟩
          | _ => simp [hpu, Pc.holding] at hu

/-- スレッド 1 がロックの下で二片を書いたところで、ロックを待つスレッド 0 も戻れる。 -/
theorem log_call_returns_waiting :
    let w := (World.init.run [.call 1 .error "a", .acquire 1 "t", .write 1, .write 1,
      .call 0 .info "b"]).getD .init
    w.pcs 0 = .locking .info "b" ∧ w.owner = some 1 ∧
    ∃ es₁ es₂ w', (∀ e ∈ es₁, ∃ u, w.owner = some u ∧ e.actor = some u) ∧
      (∀ e ∈ es₂, e.actor = some 0) ∧ (es₁ ++ es₂).length ≤ 19 ∧
      w.run (es₁ ++ es₂) = some w' ∧ (w'.pcs 0 = .idle ∨ w'.aborted = true) :=
  by intro w; exact ⟨rfl, rfl, log_call_returns (Reachable.init.getD _) (rfl : w.aborted = false) 0⟩

end Cnerium.Log
