import Cnerium.Task.Machine
import Mathlib.Logic.Relation

/-!
# 待ち合わせの仕組みは逐次評価を実現する

本体を直接評価した結果 `Body.eval` が値 `v` なら、機械はそのフレームを `co_return v` の位置まで、
例外 `e` なら `throw e` の位置まで運ぶ（`Machine.runs`）。部分タスクの `co_await` では、部分タスクの
フレームが `continuation` を通って、あるいは `resume()` の戻りを通って戻り、`await_resume` が
その結果をその場で返すか投げ直す。`co_await sub()` の一時オブジェクトの `task` は `await_resume` の後の
式の終わりで壊れて部分タスクのフレームを `destroy()` するので、区間の間に作られたフレームは、区間の
終わりでどれも壊れている（`Clean`）。

ここから、根のタスクを駆動した結果が根の本体の逐次評価に一致すること（`syncAwait_eq_eval`）と、
駆動し終えたとき生きているフレームが根だけであること（`syncAwait_leaves_only_root`）を導く。
-/

namespace Cnerium.Task

variable {V E : Type}

/-- `co_await` の後に進む本体：部分タスクの結果が例外ならその場で投げ直し、値なら続きへ進む。 -/
def Resume.next : Resume V E → Except E V → Body V E
  | _, .error e => .throw e
  | .value k, .ok v => k v
  | .void k, .ok _ => k

/-- `await_resume` は、`complete` が書いた結果を `Resume.next` のとおりに返す。 -/
theorem Promise.resumeBody_complete (r : Resume V E) (res : Except E V) (c : Option Handle) :
    (Promise.complete ⟨c, none, none, false⟩ r.isVoid res).resumeBody r = some (r.next res) := by
  cases res <;> cases r <;> rfl

namespace Machine

/-- 機械の何歩か。 -/
def Steps (m m' : Machine V E) : Prop :=
  Relation.ReflTransGen (fun a b : Machine V E => a.step = some b) m m'

/-- 割り当て済みで `c` 以外のフレームは変わらない。 -/
def Agree (c : Handle) (m m' : Machine V E) : Prop :=
  m.size ≤ m'.size ∧ ∀ i < m.size, i ≠ c → m'.frames i = m.frames i

theorem Agree.refl (c : Handle) (m : Machine V E) : Agree c m m := ⟨Nat.le_refl _, fun _ _ _ => rfl⟩

theorem Agree.trans {c : Handle} {m₁ m₂ m₃ : Machine V E} (h₁ : Agree c m₁ m₂) (h₂ : Agree c m₂ m₃) :
    Agree c m₁ m₃ :=
  ⟨Nat.le_trans h₁.1 h₂.1, fun i hi hc => (h₂.2 i (Nat.lt_of_lt_of_le hi h₁.1) hc).trans (h₁.2 i hi hc)⟩

theorem Agree.setPc (c : Handle) (m : Machine V E) (pc : Pc V E) : Agree c m (m.setPc c pc) :=
  ⟨Nat.le_refl _, fun _ _ hi => m.setPc_frames_ne pc hi⟩

/-- `m` の後に作られたフレームは、`m'` ではどれも壊れている。 -/
def Clean (m m' : Machine V E) : Prop :=
  ∀ i, m.size ≤ i → i < m'.size → (m'.frames i).pc = .destroyed

theorem Clean.of_size {m m' : Machine V E} (h : m'.size = m.size) : Clean m m' :=
  fun _ h₁ h₂ => absurd (h ▸ h₂) (Nat.not_lt_of_le h₁)

/-- 二つの区間をつなぐ：後の区間は、前の区間で作られたフレームに触れない。 -/
theorem Clean.trans {c : Handle} {m m₁ m₂ : Machine V E} (hc : c < m.size) (h₁ : Clean m m₁)
    (ha : Agree c m₁ m₂) (h₂ : Clean m₁ m₂) : Clean m m₂ := fun i hi hi₂ => by
  by_cases hi₁ : i < m₁.size
  · rw [ha.2 i hi₁ (Nat.ne_of_gt (Nat.lt_of_lt_of_le hc hi))]; exact h₁ i hi hi₁
  · exact h₂ i (Nat.le_of_not_lt hi₁) hi₂

/-- フレーム `c` が本体 `b` を文脈 `ctx` で走らせる位置まで、`c` 以外の割り当て済みのフレームと
入れ子の呼び出し元を変えずに進める。その間に作られたフレームは、着いたときにはどれも壊れている。 -/
def Reaches (c : Handle) (m : Machine V E) (b : Body V E) (ctx : List (Ctx V E)) : Prop :=
  ∃ m', Steps m m' ∧ m'.cur = some c ∧ m'.resumers = m.resumers ∧
    m'.frames c = { m.frames c with pc := .running b ctx } ∧ Agree c m m' ∧ Clean m m'

/-- 本体 `b` を走らせ始めたフレームは、作ったフレームをすべて壊してから、`b` の逐次評価の結果の位置に
着く。 -/
def Runs (b : Body V E) : Prop :=
  ∀ (m : Machine V E) (c : Handle) (ctx : List (Ctx V E)), m.cur = some c → c < m.size →
    (m.frames c).pc = .running b ctx → Reaches c m (.ofResult b.eval) ctx

theorem Reaches.refl {c : Handle} {m : Machine V E} {b : Body V E} {ctx : List (Ctx V E)}
    (hc : m.cur = some c) (hpc : (m.frames c).pc = .running b ctx) : Reaches c m b ctx :=
  ⟨m, .refl, hc, rfl, by rw [← hpc], Agree.refl c m, Clean.of_size rfl⟩

/-- フレーム `c` の中だけで済む一歩。 -/
theorem Reaches.local {c : Handle} {m : Machine V E} {b : Body V E} {ctx : List (Ctx V E)}
    (hc : m.cur = some c) (h : m.step = some (m.setPc c (.running b ctx))) : Reaches c m b ctx :=
  ⟨_, .single h, by simp [hc], rfl, by simp, Agree.setPc c m _, Clean.of_size rfl⟩

/-- 二つの区間をつなぐ。 -/
theorem Reaches.trans {c : Handle} {m : Machine V E} {b b' : Body V E} {ctx ctx' : List (Ctx V E)}
    (hsize : c < m.size) (h : Reaches c m b ctx)
    (h' : ∀ m₁ : Machine V E, m₁.cur = some c → c < m₁.size → (m₁.frames c).pc = .running b ctx →
      Reaches c m₁ b' ctx') : Reaches c m b' ctx' := by
  obtain ⟨m₁, hs₁, hc₁, hr₁, hf₁, ha₁, hn₁⟩ := h
  obtain ⟨m₂, hs₂, hc₂, hr₂, hf₂, ha₂, hn₂⟩ :=
    h' m₁ hc₁ (Nat.lt_of_lt_of_le hsize ha₁.1) (by simp [hf₁])
  exact ⟨m₂, hs₁.trans hs₂, hc₂, hr₂.trans hr₁, by simp [hf₂, hf₁], ha₁.trans ha₂,
    hn₁.trans hsize ha₂ hn₂⟩

/-! ## 部分タスクの往復

`co_await` で止まるとき（`eager = false`）は部分タスクの `continuation` に自分を書いて `await` の位置で
待ち、先に `resume()` を呼ぶとき（`eager = true`）は `continuation` を書かずに `resume()` の中で待つ。 -/

/-- 部分タスクが作られたときの約束。 -/
def waitPromise (eager : Bool) (c : Handle) : Promise V E :=
  if eager then .init else { Promise.init with continuation := some c }

/-- 部分タスクを待つ側の位置。 -/
def waitPc (eager : Bool) (n : Handle) (r : Resume V E) (ctx : List (Ctx V E)) : Pc V E :=
  if eager then .resuming n r ctx else .awaiting n r ctx

/-- 部分タスクが走る間の、入れ子の `resume()` の呼び出し元。 -/
def waitResumers (eager : Bool) (c : Handle) (rs : List Handle) : List Handle :=
  if eager then c :: rs else rs

/-- 部分タスクを作って走らせ始める一歩。 -/
theorem call_spec {m : Machine V E} {c : Handle} (eager : Bool) (sub : Body V E) (r : Resume V E)
    (ctx : List (Ctx V E)) (hsize : c < m.size) :
    ∃ m', m.call c eager sub r ctx = some m' ∧ m'.cur = some m.size ∧ m'.size = m.size + 1 ∧
      m'.resumers = waitResumers eager c m.resumers ∧
      m'.frames m.size = ⟨r.isVoid, .running sub [], waitPromise eager c⟩ ∧
      m'.frames c = { m.frames c with pc := waitPc eager m.size r ctx } ∧
      ∀ i < m.size, i ≠ c → m'.frames i = m.frames i := by
  have hne : m.size ≠ c := (Nat.ne_of_lt hsize).symm
  cases eager
  · refine ⟨{ (((m.spawn r.isVoid sub).setPromise m.size (waitPromise false c)).setPc c
        (.awaiting m.size r ctx)).setPc m.size (.running sub []) with cur := some m.size },
      by simp [call, coAwait, Pc.done, resume, setPc_frames_ne _ _ hne, waitPromise], rfl, rfl, rfl,
      by simp [setPc_frames_ne _ _ hne, waitPromise], ?_, fun i hi hic => ?_⟩
    · simp [setPc_frames_ne _ _ hne.symm, setPromise_frames_ne _ _ hne.symm,
        spawn_frames_lt _ _ _ hsize, waitPc]
    · simp [setPc_frames_ne _ _ (Nat.ne_of_lt hi), setPc_frames_ne _ _ hic,
        setPromise_frames_ne _ _ (Nat.ne_of_lt hi), spawn_frames_lt _ _ _ hi]
  · refine ⟨{ ({ (m.spawn r.isVoid sub).setPc c (.resuming m.size r ctx) with
        resumers := c :: m.resumers }).setPc m.size (.running sub []) with cur := some m.size },
      by simp [call, resume, setPc_frames_ne _ _ hne], rfl, rfl, rfl,
      by simp [setPc_frames_ne _ _ hne, waitPromise], ?_, fun i hi hic => ?_⟩
    · simp [setPc_frames_ne _ _ hne.symm, spawn_frames_lt _ _ _ hsize, waitPc]
    · simp [setPc_frames_ne _ _ (Nat.ne_of_lt hi), setPc_frames_ne _ _ hic, spawn_frames_lt _ _ _ hi]

/-- 部分タスクの本体を抜ける一歩：結果を約束に書き、待つ側へ戻って `await_resume` がその結果を返す。 -/
theorem complete_spec {m : Machine V E} {n c : Handle} (eager : Bool) {r : Resume V E}
    {ctx : List (Ctx V E)} {rs : List Handle} {pc : Pc V E} (res : Except E V) (hne : n ≠ c)
    (hn : m.frames n = ⟨r.isVoid, pc, waitPromise eager c⟩)
    (hc : (m.frames c).pc = waitPc eager n r ctx) (hr : m.resumers = waitResumers eager c rs) :
    ∃ m', m.complete n res = some m' ∧ m'.cur = some c ∧ m'.resumers = rs ∧ m'.size = m.size ∧
      m'.frames c = { m.frames c with pc := .running (r.next res) ctx } ∧
      (m'.frames n).pc = .destroyed ∧ ∀ i, i ≠ n → i ≠ c → m'.frames i = m.frames i := by
  let m₁ := (m.setPromise n ((waitPromise eager c).complete r.isVoid res)).setPc n .final
  have h₁c : m₁.frames c = m.frames c := by
    simp [m₁, setPc_frames_ne _ _ hne.symm, setPromise_frames_ne _ _ hne.symm]
  have h₁ : ∀ i, i ≠ n → m₁.frames i = m.frames i := fun i hi => by
    simp [m₁, setPc_frames_ne _ _ hi, setPromise_frames_ne _ _ hi]
  cases eager
  · refine ⟨{ (m₁.setPc c (.running (r.next res) ctx)).setPc n .destroyed with cur := some c },
      ?_, rfl, by simpa [waitResumers] using hr, rfl, ?_, by simp, fun i hin hic => ?_⟩
    · simp only [waitPromise, waitPc, Bool.false_eq_true, if_false] at hn hc
      simp only [complete, hn, Promise.complete_continuation, resume, setPc_frames_ne _ _ hne.symm,
        setPromise_frames_ne _ _ hne.symm, hc, awaitResume, setPc_frames_self,
        setPromise_frames_self]
      simp [Promise.init, Promise.resumeBody_complete, m₁, waitPromise]
    · simp [setPc_frames_ne _ _ hne.symm, h₁c]
    · simp [setPc_frames_ne _ _ hin, setPc_frames_ne _ _ hic, h₁ i hin]
  · refine ⟨({ m₁ with resumers := rs, cur := some c }.setPc c (.running (r.next res) ctx)).setPc n
        .destroyed, ?_, rfl, rfl, rfl, ?_, by simp, fun i hin hic => ?_⟩
    · simp only [waitPromise, waitPc, waitResumers, if_true] at hn hc hr
      simp only [complete, hn, Promise.complete_continuation, Promise.complete_detached, Promise.init,
        Bool.false_eq_true, if_false, returnToResumer, hr, setPc_resumers, setPromise_resumers,
        setPc_frames_ne _ _ hne.symm, setPromise_frames_ne _ _ hne.symm, hc, coAwait,
        setPc_frames_self, Pc.done, if_true, awaitResume, setPromise_frames_self,
        Promise.resumeBody_complete, Option.map_some']
      rfl
    · simp [setPc_frames_ne _ _ hne.symm, h₁c]
    · simp [setPc_frames_ne _ _ hin, setPc_frames_ne _ _ hic, h₁ i hin]

/-! ## 本体の各構文 -/

theorem runs_ret (v : V) : Runs (E := E) (.ret v) :=
  fun _ _ _ hc _ hpc => Reaches.refl hc hpc

theorem runs_throw (e : E) : Runs (V := V) (.throw e) :=
  fun _ _ _ hc _ hpc => Reaches.refl hc hpc

/-- 値 `v` で終わったブロックから、文脈の一段 `fr` を抜けて `k v` へ進む。 -/
theorem Reaches.exit_ret {c : Handle} {m : Machine V E} {v : V} {k : V → Body V E}
    {fr : Ctx V E} {ctx : List (Ctx V E)} (hfr : fr = .after k ∨ ∃ h, fr = .handler h k)
    (hc : m.cur = some c) (hpc : (m.frames c).pc = .running (.ret v) (fr :: ctx)) :
    Reaches c m (k v) ctx := by
  refine Reaches.local hc ?_
  rw [step_running hc hpc]
  rcases hfr with rfl | ⟨h, rfl⟩ <;> rfl

theorem runs_tryCatch {b : Body V E} {h : E → Body V E} {k : V → Body V E} (hb : Runs b)
    (hh : ∀ e, Runs (h e)) (hk : ∀ v, Runs (k v)) : Runs (.tryCatch b h k) := by
  intro m c ctx hc hsize hpc
  have h₁ : Reaches c m b (.handler h k :: ctx) :=
    Reaches.local hc (by rw [step_running hc hpc]; rfl)
  refine h₁.trans hsize fun m₁ hc₁ hs₁ hpc₁ => (hb m₁ c _ hc₁ hs₁ hpc₁).trans hs₁ ?_
  intro m₂ hc₂ hs₂ hpc₂
  cases hbe : b.eval with
  | ok v =>
      rw [hbe] at hpc₂
      simp only [Body.eval, hbe]
      exact (Reaches.exit_ret (.inr ⟨h, rfl⟩) hc₂ hpc₂).trans hs₂ fun m₃ hc₃ hs₃ hpc₃ =>
        hk v m₃ c ctx hc₃ hs₃ hpc₃
  | error e =>
      rw [hbe] at hpc₂
      have h₃ : Reaches c m₂ (h e) (.after k :: ctx) :=
        Reaches.local hc₂ (by rw [step_running hc₂ hpc₂]; rfl)
      refine h₃.trans hs₂ fun m₃ hc₃ hs₃ hpc₃ => (hh e m₃ c _ hc₃ hs₃ hpc₃).trans hs₃ ?_
      intro m₄ hc₄ hs₄ hpc₄
      cases hhe : (h e).eval with
      | ok v =>
          rw [hhe] at hpc₄
          simp only [Body.eval, hbe, hhe]
          exact (Reaches.exit_ret (.inl rfl) hc₄ hpc₄).trans hs₄ fun m₅ hc₅ hs₅ hpc₅ =>
            hk v m₅ c ctx hc₅ hs₅ hpc₅
      | error e' =>
          rw [hhe] at hpc₄
          simp only [Body.eval, hbe, hhe, Body.ofResult]
          exact Reaches.local hc₄ (by rw [step_running hc₄ hpc₄]; rfl)

theorem exec_ofResult (m : Machine V E) (h : Handle) (res : Except E V) :
    m.exec h (.ofResult res) [] = m.complete h res := by
  cases res <;> rfl

/-- `co_await` の往復：部分タスクを作って走らせ、その本体の逐次評価の結果を約束に通して受け取る。
部分タスクのフレーム `m.size` と、その本体が作ったフレームは、`await_resume` の後にどれも壊れている。 -/
theorem runs_call {sub : Body V E} (hs : Runs sub) {m : Machine V E} {c : Handle} {eager : Bool}
    {r : Resume V E} {ctx : List (Ctx V E)} (hsize : c < m.size)
    (hstep : m.step = m.call c eager sub r ctx) : Reaches c m (r.next sub.eval) ctx := by
  have hne : m.size ≠ c := (Nat.ne_of_lt hsize).symm
  obtain ⟨m₁, h₁, hc₁, hsz₁, hr₁, hn₁, hf₁, ho₁⟩ := call_spec eager sub r ctx hsize
  have hlt₁ : ∀ i, i ≤ m.size → i < m₁.size := fun i hi => hsz₁ ▸ Nat.lt_succ_of_le hi
  obtain ⟨m₂, hs₂, hc₂, hr₂, hf₂, ha₂, hn₂⟩ :=
    hs m₁ m.size [] hc₁ (hlt₁ _ (Nat.le_refl _)) (by simp [hn₁])
  have hc₂' : m₂.frames c = m₁.frames c := ha₂.2 c (hlt₁ c (Nat.le_of_lt hsize)) hne.symm
  have hpc₂ : (m₂.frames m.size).pc = .running (.ofResult sub.eval) [] := by simp [hf₂]
  have hstep₂ : m₂.step = m₂.complete m.size sub.eval := by
    rw [step_running hc₂ hpc₂]
    exact exec_ofResult m₂ m.size sub.eval
  obtain ⟨m₃, h₃, hc₃, hr₃, hsz₃, hf₃, hd₃, ho₃⟩ :=
    complete_spec eager sub.eval hne (by rw [hf₂, hn₁]) (by rw [hc₂', hf₁]) (by rw [hr₂, hr₁])
  refine ⟨m₃, .head (hstep.trans h₁) (hs₂.tail (hstep₂.trans h₃)), hc₃, hr₃,
    by rw [hf₃, hc₂', hf₁], ⟨hsz₃ ▸ Nat.le_trans (Nat.le_of_lt (hlt₁ _ (Nat.le_refl _))) ha₂.1,
    fun i hi hic => ?_⟩, fun i hi hi₃ => ?_⟩
  · rw [ho₃ i (Nat.ne_of_lt hi) hic, ha₂.2 i (hlt₁ i (Nat.le_of_lt hi)) (Nat.ne_of_lt hi), ho₁ i hi hic]
  · rcases Nat.eq_or_lt_of_le hi with rfl | hi
    · exact hd₃
    · rw [ho₃ i (Nat.ne_of_gt hi) (Nat.ne_of_gt (Nat.lt_trans hsize hi))]
      exact hn₂ i (by rw [hsz₁]; exact hi) (hsz₃ ▸ hi₃)

theorem runs_await {eager : Bool} {sub : Body V E} {k : V → Body V E} (hs : Runs sub)
    (hk : ∀ v, Runs (k v)) : Runs (.await eager sub k) := by
  intro m c ctx hc hsize hpc
  refine (runs_call hs hsize (by rw [step_running hc hpc]; rfl)).trans hsize fun m₁ hc₁ hs₁ hpc₁ => ?_
  cases hse : sub.eval with
  | ok v =>
      rw [hse] at hpc₁
      simp only [Body.eval, hse]
      exact hk v m₁ c ctx hc₁ hs₁ hpc₁
  | error e =>
      rw [hse] at hpc₁
      simp only [Body.eval, hse, Body.ofResult]
      exact Reaches.refl hc₁ hpc₁

theorem runs_awaitVoid {eager : Bool} {sub : Body V E} {k : Body V E} (hs : Runs sub)
    (hk : Runs k) : Runs (.awaitVoid eager sub k) := by
  intro m c ctx hc hsize hpc
  refine (runs_call hs hsize (by rw [step_running hc hpc]; rfl)).trans hsize fun m₁ hc₁ hs₁ hpc₁ => ?_
  cases hse : sub.eval with
  | ok v =>
      rw [hse] at hpc₁
      simp only [Body.eval, hse]
      exact hk m₁ c ctx hc₁ hs₁ hpc₁
  | error e =>
      rw [hse] at hpc₁
      simp only [Body.eval, hse, Body.ofResult]
      exact Reaches.refl hc₁ hpc₁

/-- どの本体も、走らせ始めたフレームをその逐次評価の結果の位置まで運ぶ。 -/
theorem runs : ∀ b : Body V E, Runs b
  | .ret v => runs_ret v
  | .throw e => runs_throw e
  | .await _ sub k => runs_await (runs sub) fun v => runs (k v)
  | .awaitVoid _ sub k => runs_awaitVoid (runs sub) (runs k)
  | .tryCatch b h k => runs_tryCatch (runs b) (fun e => runs (h e)) fun v => runs (k v)

theorem Steps.exists_run {m m' : Machine V E} (h : Steps m m') : ∃ n, run n m = m' := by
  induction h using Relation.ReflTransGen.head_induction_on with
  | refl => exact ⟨0, rfl⟩
  | head hstep _ ih =>
      obtain ⟨n, hn⟩ := ih
      exact ⟨n + 1, by simp [run, hstep, hn]⟩

end Machine

open Machine in
/-- 根のタスクを駆動し終えた機械：根は `final_suspend` に着いて約束に本体の逐次評価の結果が書かれ、
制御は駆動側へ戻り、ほかに作られたフレームはどれも壊れている。 -/
theorem syncAwait_spec (isVoid : Bool) (body : Body V E) :
    ∃ fuel m, syncAwait fuel isVoid body = some m ∧ m.cur = none ∧
      m.frames 0 = ⟨isVoid, .final, Promise.init.complete isVoid body.eval⟩ ∧
      ∀ i < m.size, i ≠ 0 → (m.frames i).pc = .destroyed := by
  let m₀ : Machine V E := { (Machine.init isVoid body).setPc 0 (.running body []) with cur := some 0 }
  have h₀ : (Machine.init isVoid body).resume 0 = some m₀ := rfl
  obtain ⟨m₁, hs₁, hc₁, hr₁, hf₁, -, hn₁⟩ := runs body m₀ 0 [] rfl (by simp [m₀, Machine.init])
    (by simp [m₀])
  have hr₁' : m₁.resumers = [] := hr₁
  have hf₁' : m₁.frames 0 = ⟨isVoid, .running (.ofResult body.eval) [], .init⟩ := by
    simp [hf₁, m₀, Machine.init]
  have hpc₁ : (m₁.frames 0).pc = .running (.ofResult body.eval) [] := by simp [hf₁']
  let m₂ : Machine V E :=
    { (m₁.setPromise 0 (Promise.init.complete isVoid body.eval)).setPc 0 .final with cur := none }
  have h₂ : m₁.step = some m₂ := by
    rw [step_running hc₁ hpc₁, exec_ofResult]
    simp [complete, hf₁', Promise.init, returnToResumer, hr₁', m₂]
  obtain ⟨n, hn⟩ := Steps.exists_run (hs₁.tail h₂)
  refine ⟨n, m₂, by simp [syncAwait, h₀, hn], rfl, by simp [m₂, hf₁'], fun i hi hi0 => ?_⟩
  simpa [m₂, setPc_frames_ne _ _ hi0, setPromise_frames_ne _ _ hi0] using
    hn₁ i (Nat.pos_of_ne_zero hi0) hi

/-- 根のタスクを駆動すると、表明に当たらず、根が `final_suspend` に着いて制御が駆動側へ戻り、根の約束
には本体の逐次評価の結果（`return_value` の値か捕まらなかった例外）が書かれている。 -/
theorem syncAwait_eq_eval (isVoid : Bool) (body : Body V E) :
    ∃ fuel m, syncAwait fuel isVoid body = some m ∧ m.cur = none ∧ (m.frames 0).pc = .final ∧
      (m.frames 0).promise = Promise.init.complete isVoid body.eval := by
  obtain ⟨n, m, h, hc, h0, -⟩ := syncAwait_spec isVoid body
  exact ⟨n, m, h, hc, by rw [h0], by rw [h0]⟩

/-- 子が投げた例外は待った場所の `try` で一度だけ捕まる。 -/
example : ((syncAwait 20 false (.tryCatch (.awaitVoid false (.throw "boom") (.ret 1))
    (fun e => .ret e.length) (fun v => .ret (v + 10)) : Body Nat String)).map
      fun m => (m.frames 0).promise.value) = some (some 14) := by decide

/-- 二段の `co_await` の後：根のほかの二つのフレームは壊れている。 -/
example : ((syncAwait 20 false (.await false (.await true (.ret 1) fun v => .ret (v + 1))
    fun v => .ret (v * 2)) : Option (Machine Nat String)).map
      fun m => (m.size, (m.frames 1).pc matches .destroyed, (m.frames 2).pc matches .destroyed,
        (m.frames 0).pc.done)) = some (3, true, true, true) := by
  decide

end Cnerium.Task
