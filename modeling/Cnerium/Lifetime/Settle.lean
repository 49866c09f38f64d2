import Cnerium.Lifetime.Acyclic

/-!
# 走っているフレームは終わりまで進める

どの届く世界からも、ループのスレッドの一歩（本体の終わり `finish` と、キューのジョブの実行 `dispatch`）と、
producer がハンドルを `post` する一歩（`produce`）だけで、何も走らず、キューも producer も空で、途中で
止まっているフレームのない世界に着ける。ただし、空のタスク値から作った `make_detached` のフレームを
キューから取り出すと、その `co_await` は空のハンドルの `promise()` を読む。そのときはそこで止まる。

仕事の量 `World.work` は、走っているか途中で止まっているフレームの数に、キューのジョブ一つあたり 3 を、
producer が預かるハンドル一つあたり 4 を足したものである。三つの一歩はどれもこれを減らす。
-/

namespace Cnerium.Lifetime

@[simp] theorem Life.inFlight_initial : Life.initial.inFlight = false := rfl
@[simp] theorem Life.inFlight_running : Life.running.inFlight = true := rfl
@[simp] theorem Life.inFlight_awaiting (g : Handle) : (Life.awaiting g).inFlight = true := rfl
@[simp] theorem Life.inFlight_waiting : Life.waiting.inFlight = true := rfl
@[simp] theorem Life.inFlight_final : Life.final.inFlight = false := rfl
@[simp] theorem Life.inFlight_destroyed (c : Cause) : (Life.destroyed c).inFlight = false := rfl

/-- 番号が `n` より小さいフレームのうち、走っているか途中で止まっているものの数。 -/
def inFlightCount (fr : Handle → Frame) : Nat → Nat
  | 0 => 0
  | n + 1 => inFlightCount fr n + (fr n).life.inFlight.toNat

theorem inFlightCount_congr {fr fr' : Handle → Frame} :
    ∀ {n}, (∀ x < n, fr x = fr' x) → inFlightCount fr n = inFlightCount fr' n
  | 0, _ => rfl
  | n + 1, h => by
      simp only [inFlightCount, inFlightCount_congr fun x hx => h x (Nat.lt_succ_of_lt hx),
        h n (Nat.lt_succ_self n)]

/-- 一つのフレームを書き換えると、数はその分だけ変わる。 -/
theorem inFlightCount_update (fr : Handle → Frame) {h : Handle} (x : Frame) :
    ∀ {n}, h < n → inFlightCount (Function.update fr h x) n + (fr h).life.inFlight.toNat =
      inFlightCount fr n + x.life.inFlight.toNat
  | 0, hn => absurd hn (Nat.not_lt_zero h)
  | n + 1, hn => by
      rcases Nat.lt_succ_iff_lt_or_eq.1 hn with hn | rfl
      · have ih := inFlightCount_update fr x hn
        simp only [inFlightCount, Function.update_noteq (Nat.ne_of_gt hn)]
        omega
      · have hc : inFlightCount (Function.update fr h x) h = inFlightCount fr h :=
          inFlightCount_congr fun y hy => Function.update_noteq (Nat.ne_of_lt hy) x fr
        simp only [inFlightCount, Function.update_same, hc]
        omega

namespace World

/-- 残っている仕事の量。 -/
def work (w : World) : Nat :=
  inFlightCount w.frames w.size + 3 * w.sched.q.length + 4 * w.pending.length

/-- いま走っているフレームは仕事に数えない。 -/
@[simp] theorem work_cur (w : World) (c : Option Handle) : { w with cur := c }.work = w.work := rfl

/-- 一つのフレームの寿命を書き換えると、仕事はその分だけ変わる。 -/
theorem work_setLife (w : World) {h : Handle} (l : Life) (hh : h < w.size) :
    (w.setLife h l).work + (w.frames h).life.inFlight.toNat = w.work + l.inFlight.toNat := by
  have : inFlightCount (w.setLife h l).frames w.size + (w.frames h).life.inFlight.toNat =
      inFlightCount w.frames w.size + l.inFlight.toNat := inFlightCount_update w.frames _ hh
  simp only [work, setLife_size, setLife_sched, setLife_pending]
  omega

/-- `co_await` で止まった `a` と走り出した `g` は、どちらも仕事に加わる。 -/
theorem work_handoff (V : World) {a g : Handle} (hag : a ≠ g) (ha : a < V.size)
    (hg : g < V.size) (hal : (V.frames a).life.inFlight = false)
    (hgl : (V.frames g).life.inFlight = false) :
    (V.handoff a g).work = V.work + 2 := by
  have hfr : (V.handoff a g).frames = Function.update
      (Function.update V.frames a { V.frames a with life := .awaiting g }) g
      { V.frames g with continuation := some a, awaited := true, life := .running } := by
    funext x
    rw [handoff_frames hag]
    by_cases hx : x = g
    · subst hx; simp
    · by_cases hxa : x = a
      · subst hxa; simp [hx]
      · simp [hx, hxa]
  have h₁ := inFlightCount_update V.frames { V.frames a with life := .awaiting g } ha
  have h₂ := inFlightCount_update (Function.update V.frames a { V.frames a with life := .awaiting g })
    { V.frames g with continuation := some a, awaited := true, life := .running } hg
  have e₁ : ({ V.frames a with life := .awaiting g } : Frame).life.inFlight.toNat = 1 := rfl
  have e₂ : ({ V.frames g with continuation := some a, awaited := true, life := .running } :
    Frame).life.inFlight.toNat = 1 := rfl
  rw [Function.update_noteq (Ne.symm hag), hgl, e₂] at h₂
  rw [hal, e₁] at h₁
  show inFlightCount (V.handoff a g).frames V.size + 3 * V.sched.q.length + 4 * V.pending.length =
    inFlightCount V.frames V.size + 3 * V.sched.q.length + 4 * V.pending.length + 2
  rw [hfr]
  simp only [Bool.toNat_false] at h₁ h₂ ⊢
  omega

/-- 一歩がフレームの種類を変えず、キューと producer の中身を増やさない。 -/
def Shrinks (w w' : World) : Prop :=
  (∀ x, (w'.frames x).kind = (w.frames x).kind) ∧
    ∀ x ∈ w'.sched.q ++ w'.pending, x ∈ w.sched.q ++ w.pending

theorem Shrinks.trans {w₁ w₂ w₃ : World} (h₁ : w₁.Shrinks w₂) (h₂ : w₂.Shrinks w₃) :
    w₁.Shrinks w₃ :=
  ⟨fun x => (h₂.1 x).trans (h₁.1 x), fun x hx => h₁.2 x (h₂.2 x hx)⟩

@[simp] theorem setLife_kind (w : World) (h : Handle) (l : Life) (x : Handle) :
    ((w.setLife h l).frames x).kind = (w.frames x).kind := by
  by_cases hx : x = h
  · subst hx; simp
  · simp [hx]

theorem handoff_kind {w : World} {a g : Handle} (hag : a ≠ g) (x : Handle) :
    ((w.handoff a g).frames x).kind = (w.frames x).kind := by
  rw [handoff_frames hag]
  split_ifs with h₁ h₂
  · subst h₁; rfl
  · subst h₂; rfl
  · rfl

theorem mem_queue_of_tail {w : World} {h x : Handle} {q : List Handle} (hq : w.sched.q = h :: q)
    (hx : x ∈ q ++ w.pending) : x ∈ w.sched.q ++ w.pending := by
  rw [hq]
  rcases List.mem_append.1 hx with hx | hx
  exacts [List.mem_append_left _ (List.mem_cons_of_mem _ hx), List.mem_append_right _ hx]

/-! ## 一歩ごとに仕事が減る -/

/-- 走っているフレームの本体が終わる一歩は、仕事を減らす。 -/
theorem Inv.finish_work {w : World} (hi : w.Inv) {f : Handle} (hc : w.cur = some f) :
    ∃ w', w.step .finish = .ok w' ∧ w'.work < w.work ∧ w.Shrinks w' := by
  obtain ⟨hr, hk, hlt⟩ := hi.running_frame hc
  rw [step_finish_of hc]
  cases hcont : (w.frames f).continuation with
  | some c =>
      have hcl : (w.frames c).life = .awaiting f := hi.cont f c hcont (by simp [hr])
      have hcf : c ≠ f := by rintro rfl; simp [hr] at hcl
      have hclt : c < w.size := hi.lt_size (by simp [hcl])
      cases hck : (w.frames c).kind with
      | task =>
          refine ⟨_, finalSuspend_resume hcont hcl hck hcf, ?_, fun x => by simp only [setLife_kind],
            fun x hx => hx⟩
          have h₁ := w.work_setLife .final hlt
          have h₂ := (w.setLife f .final).work_setLife .running hclt
          simp only [hr, setLife_frames, Function.update_noteq hcf, hcl, Life.inFlight_running,
            Life.inFlight_final, Life.inFlight_awaiting, Bool.toNat_true, Bool.toNat_false] at h₁ h₂
          rw [work_cur]
          omega
      | detachedTask t =>
          cases hi.wrapper_awaiting hck hcl
          refine ⟨_, finalSuspend_wrapper hcont hcl hck hcf, ?_, fun x => by simp only [setLife_kind],
            fun x hx => hx⟩
          have h₁ := w.work_setLife (.destroyed .finalAwaiter) hclt
          have h₂ := (w.setLife c (.destroyed .finalAwaiter)).work_setLife (.destroyed .owner) hlt
          simp only [hcl, setLife_frames, Function.update_noteq (Ne.symm hcf), hr,
            Life.inFlight_running, Life.inFlight_destroyed, Life.inFlight_awaiting, Bool.toNat_true,
            Bool.toNat_false] at h₁ h₂
          rw [work_cur]
          omega
  | none =>
      cases hd : (w.frames f).detached with
      | false =>
          refine ⟨_, finalSuspend_idle hcont hd, ?_, fun x => by simp only [setLife_kind],
            fun x hx => hx⟩
          have h₁ := w.work_setLife .final hlt
          simp only [hr, Life.inFlight_running, Life.inFlight_final, Bool.toNat_true,
            Bool.toNat_false] at h₁
          rw [work_cur]
          omega
      | true =>
          refine ⟨_, finalSuspend_detached hcont hd hk, ?_, fun x => by simp only [setLife_kind],
            fun x hx => hx⟩
          have h₁ := w.work_setLife (.destroyed .finalAwaiter) hlt
          simp only [hr, Life.inFlight_running, Life.inFlight_destroyed, Bool.toNat_true,
            Bool.toNat_false] at h₁
          rw [work_cur]
          omega

/-- キューの先頭を取り出して再開する一歩は、空のハンドルの `promise()` に当たるか、仕事を減らす。 -/
theorem Inv.dispatch_work {w : World} (hi : w.Inv) (hc : w.cur = none) {h : Handle}
    {q : List Handle} (hq : w.sched.q = h :: q) :
    (w.step .dispatch = .error .nullPromise ∧ (w.frames h).kind = .detachedTask none) ∨
      ∃ w', w.step .dispatch = .ok w' ∧ w'.work < w.work ∧ w.Shrinks w' := by
  have hchk := w.sched.check_cons h q hq
  obtain ⟨hlt, hst⟩ := (hi.queued h).1 (by simp [hq])
  set W : World := { w with cur := none, sched := { w.sched with q := q } }
  have hW : w.work = W.work + 3 := by simp [work, W, hq]; omega
  cases hk : (w.frames h).kind with
  | task =>
      right
      refine ⟨{ W.setLife h .running with cur := some h }, ?_, ?_,
        fun x => setLife_kind W h .running x, fun x hx => mem_queue_of_tail hq hx⟩
      · rcases hst with h' | ⟨h', -⟩ <;> simp [step, hc, hchk, resume, hk, resumeTask, h', W]
      · have hh := W.work_setLife .running hlt
        simp only [Life.inFlight_running, Bool.toNat_true, work_cur] at hh ⊢
        omega
  | detachedTask t =>
      have hinit := hi.wrapper_queued_initial (by simp [hq]) hk
      cases t with
      | none => exact .inl ⟨by simp [step, hc, hchk, resume, hk, hinit, coAwait], rfl⟩
      | some g =>
          right
          obtain ⟨hg, hgk, -, hpar⟩ := hi.param h g ⟨hk, by simp [hinit, Life.isLive]⟩
          have hgl : (w.frames g).life = .initial := by
            rcases hpar with ⟨-, h₁, -⟩ | h'
            · exact h₁
            · simp [hinit] at h'
          have hhg : h ≠ g := by rintro rfl; simp [hk] at hgk
          refine ⟨W.handoff h g, ?_, ?_, fun x => handoff_kind hhg x,
            fun x hx => mem_queue_of_tail hq hx⟩
          · have := coAwait_initial (w := W) (fun w' => w'.detachedFinal h) hgl hhg
            simp only [step, hc, hchk, resume, hk, hinit]
            exact this
          · have := W.work_handoff hhg hlt hg (by simp [W, hinit]) (by simp [W, hgl])
            omega

/-- producer が預かった先頭のハンドルを `post` する一歩は、仕事を減らす。 -/
theorem produce_work {w : World} {h : Handle} {p : List Handle} (hp : w.pending = h :: p) :
    ∃ w', w.step (.produce 0) = .ok w' ∧ w'.work < w.work ∧ w.Shrinks w' :=
  ⟨{ w.post h with pending := p }, by simp [step, hp], by simp [work, hp]; omega, fun _ => rfl,
    fun x hx => by
      rw [hp]
      rcases List.mem_append.1 hx with hx | hx
      · rcases List.mem_append.1 hx with hx | hx
        · exact List.mem_append_left _ hx
        · exact List.mem_append_right _ (by simp [List.mem_singleton.1 hx])
      · exact List.mem_append_right _ (List.mem_cons_of_mem _ hx)⟩

end World

/-! ## 終わりまで進める -/

/-- ループと producer の一歩：本体の終わり、キューのジョブ、producer の `post`。 -/
def Op.settles : Op → Bool
  | .finish | .dispatch | .produce 0 => true
  | _ => false

theorem World.run_cons_ok {w w' : World} {op : Op} (h : w.step op = .ok w') (ops : List Op) :
    w.run (op :: ops) = w'.run ops := by
  simp [World.run, h, Except.bind]

/-- 空のタスク値から作った `make_detached` のフレームが、キューか producer の中にある。 -/
def World.EmptyWrapperQueued (w : World) : Prop :=
  ∃ h ∈ w.sched.q ++ w.pending, (w.frames h).kind = .detachedTask none

theorem World.Shrinks.emptyWrapperQueued {w w' : World} (hs : w.Shrinks w')
    (he : w'.EmptyWrapperQueued) : w.EmptyWrapperQueued := by
  obtain ⟨h, hm, hk⟩ := he
  exact ⟨h, hs.2 h hm, (hs.1 h).symm.trans hk⟩

/-- 仕事の量についての帰納法。 -/
theorem Reachable.settle_of_work : ∀ n {w : World}, Reachable w → w.work = n →
    ∃ ops : List Op, (∀ op ∈ ops, op.settles = true) ∧
      ((w.run ops = .error .nullPromise ∧ w.EmptyWrapperQueued) ∨
        ∃ w', w.run ops = .ok w' ∧ Reachable w' ∧ w'.cur = none ∧ w'.sched.q = [] ∧ w'.pending = []) := by
  intro n
  induction n using Nat.strong_induction_on with
  | _ n ih =>
    intro w hw hn
    have hi := hw.inv
    have next : ∀ op w', op.settles = true → w.step op = .ok w' → w'.work < n → w.Shrinks w' →
        ∃ ops : List Op, (∀ op ∈ ops, op.settles = true) ∧
          ((w.run ops = .error .nullPromise ∧ w.EmptyWrapperQueued) ∨ ∃ w'', w.run ops = .ok w'' ∧
            Reachable w'' ∧ w''.cur = none ∧ w''.sched.q = [] ∧ w''.pending = []) := by
      intro op w' hop hs hlt hsh
      obtain ⟨ops, hops, hr⟩ := ih _ hlt (hw.step (by cases op <;> trivial) hs) rfl
      refine ⟨op :: ops, ?_, ?_⟩
      · intro o ho
        rcases List.mem_cons.1 ho with rfl | ho
        exacts [hop, hops o ho]
      · rw [World.run_cons_ok hs]
        exact hr.imp_left fun ⟨he, hq⟩ => ⟨he, hsh.emptyWrapperQueued hq⟩
    cases hc : w.cur with
    | some f =>
        obtain ⟨w', hs, hlt, hsh⟩ := hi.finish_work hc
        exact next .finish w' rfl hs (hn ▸ hlt) hsh
    | none =>
        cases hq : w.sched.q with
        | cons h q =>
            rcases hi.dispatch_work hc hq with ⟨he, hk⟩ | ⟨w', hs, hlt, hsh⟩
            · exact ⟨[.dispatch], by simp [Op.settles],
                .inl ⟨by simp [World.run, he, Except.bind], h, by simp [hq], hk⟩⟩
            · exact next .dispatch w' rfl hs (hn ▸ hlt) hsh
        | nil =>
            cases hp : w.pending with
            | cons h p =>
                obtain ⟨w', hs, hlt, hsh⟩ := World.produce_work hp
                exact next (.produce 0) w' rfl hs (hn ▸ hlt) hsh
            | nil => exact ⟨[], by simp, .inr ⟨w, rfl, hw, hc, hq, hp⟩⟩

/-- どの届く世界からも、ループのスレッドの一歩と producer の `post` だけで、何も走らず、キューも producer
も空の世界に着く。そこでは途中で止まっているフレームは一つもない。ただし、空のタスク値から作った
`make_detached` のフレームがはじめからキューか producer の中にあれば、それを再開したところで空の
ハンドルの `promise()` を読んで止まることがある。 -/
theorem frames_run_to_completion {w : World} (hw : Reachable w) :
    ∃ ops : List Op, (∀ op ∈ ops, op.settles = true) ∧
      ((w.run ops = .error .nullPromise ∧ w.EmptyWrapperQueued) ∨
        ∃ w', w.run ops = .ok w' ∧ Reachable w' ∧ w'.cur = none ∧ w'.sched.q = [] ∧
          w'.pending = [] ∧ ∀ h, (w'.frames h).life.inFlight = false) := by
  obtain ⟨ops, hops, hr⟩ := hw.settle_of_work _ rfl
  refine ⟨ops, hops, hr.imp_right fun ⟨w', hrun, hw', hc, hq, hp⟩ => ⟨w', hrun, hw', hc, hq, hp, ?_⟩⟩
  intro h
  by_contra hfl
  obtain ⟨e, -, he⟩ := hw'.inv.await_chain_end hw'.acyclic h (by simpa using hfl)
  rcases he with he | ⟨he, -⟩
  · simp [hc] at he
  · simp [hq, hp] at he

/-- `start` したフレーム `1` がタスク値 `0` を `co_await` して止まり、`0` が走っている世界から。 -/
theorem frames_run_to_completion_nested :
    let w := (World.init.run [.create 0, .create 1, .start 1, .dispatch, .await 0]).toOption.getD .init
    (w.frames 1).life = .awaiting 0 ∧ w.cur = some 0 ∧
    ∃ ops : List Op, (∀ op ∈ ops, op.settles = true) ∧
      ((w.run ops = .error .nullPromise ∧ w.EmptyWrapperQueued) ∨
        ∃ w', w.run ops = .ok w' ∧ Reachable w' ∧ w'.cur = none ∧ w'.sched.q = [] ∧
          w'.pending = [] ∧ ∀ h, (w'.frames h).life.inFlight = false) := by
  intro w
  have ha : World.init.Obeys World.Allowed [.create 0, .create 1, .start 1, .dispatch, .await 0] := by
    refine .cons (fun g h => (nomatch h)) rfl (.cons ?_ rfl (.cons ?_ rfl (.cons trivial rfl
      (.cons ?_ rfl trivial))))
    all_goals intro g hg; cases hg <;> rfl
  exact ⟨rfl, rfl, frames_run_to_completion (Reachable.run .init ha rfl)⟩

end Cnerium.Lifetime
