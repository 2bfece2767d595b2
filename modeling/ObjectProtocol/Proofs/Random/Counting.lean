import Mathlib.Algebra.Ring.Nat
import ObjectProtocol.Proofs.Random.Draws

/-!
# Draws are counted

The generator of a runtime is its seeded stream with the number of outputs taken from it, so a seed
reproduces a run if nothing takes an output by accident.  Over a run without a restart the generator
moves by the outputs of the draws and by nothing else, and what a draw answers follows from the seed, the
probability and the number of outputs before it.
-/

namespace ObjectProtocol

open ObjectProtocol.Random (Generator)

namespace Config

variable {c : Config}

/-- The `Draw`s from the first configuration to the second, in order, in a run without a restart. -/
inductive Drawing (c : Config) : List Draw → Config → Prop
  | refl : Drawing c [] c
  | step {draws : List Draw} {c' : Config} : Drawing c draws c' →
    Drawing c (draws ++ c'.draw?.toList) c'.step
  | next {draws : List Draw} {c' : Config} (e : Expr) : Drawing c draws c' → c'.SettledOn [] →
    Drawing c draws { control := .eval e, session := c'.session }

def outputsOf (p : Float) (draws : List Draw) : Nat := (draws.map (Draw.outputs p)).sum

theorem outputsOf_eq (p : Float) (draws : List Draw) :
    outputsOf p draws =
      draws.count .coin + if 0.0 < p ∧ p < 1.0 then draws.count .fault else 0 := by
  induction draws with
  | nil => simp [outputsOf]
  | cons draw draws ih =>
    have hcons : outputsOf p (draw :: draws) = draw.outputs p + outputsOf p draws := rfl
    rw [hcons, ih]
    -- A coin always takes one output; a fault takes one when the probability is between the bounds.
    cases draw with
    | coin =>
      rw [List.count_cons_self, List.count_cons_of_ne (by decide)]
      simp only [Draw.outputs]
      omega
    | fault =>
      rw [List.count_cons_self, List.count_cons_of_ne (by decide)]
      simp only [Draw.outputs, Generator.outputs]
      split <;> omega

/-- The generator has skipped `outputsOf` the draws so far. -/
theorem Drawing.generator_eq {c' : Config} {draws : List Draw} (h : c.Drawing draws c') :
    c'.generator = c.generator.skip (outputsOf c.session.host.runtime.options.faultProbability draws) ∧
      c'.session.host.runtime.options = c.session.host.runtime.options := by
  induction h with
  | refl => exact ⟨rfl, rfl⟩
  | @step draws c' _ ih =>
    obtain ⟨hgenerator, hoptions⟩ := ih
    refine ⟨?_, c'.options_step.trans hoptions⟩
    -- A step makes at most one draw.
    have htaken : outputsOf c.session.host.runtime.options.faultProbability c'.draw?.toList =
        c'.draw?.elim 0 (Draw.outputs c.session.host.runtime.options.faultProbability) := by
      cases c'.draw? <;> simp [outputsOf]
    have hsplit (p : Float) : outputsOf p (draws ++ c'.draw?.toList) =
        outputsOf p draws + outputsOf p c'.draw?.toList := by
      simp [outputsOf]
    rw [generator_step, Runtime.drawn, hoptions, hsplit, htaken, ← Generator.skip_skip, ← hgenerator]
    rfl
  | next e _ _ ih => exact ih

def drawsOf (c : Config) : Nat → List Draw
  | 0 => []
  | n + 1 => c.drawsOf n ++ (c.after n).draw?.toList

theorem drawing_after (c : Config) (n : Nat) : c.Drawing (c.drawsOf n) (c.after n) := by
  induction n with
  | zero => exact .refl
  | succ n ih => exact ih.step

/-- A script begins, or goes on after `Session.restart`: the runtime is a new one. -/
inductive Opens (setup : Setup) : Config → Prop
  | start (e : Expr) : Opens setup { control := .eval e, session := .ofSetup setup }
  | restart (e : Expr) (s : Session) :
    Opens setup { control := .eval e, session := (s.restart setup.options).equip setup }

end Config

theorem Session.generator_equip (s : Session) (setup : Setup) :
    (s.equip setup).host.runtime.generator = s.host.runtime.generator :=
  (s.provided_equip setup).generator_eq

theorem Session.runtime_restart (s : Session) (options : Options) :
    (s.restart options).host.runtime = .start options s.host.store.nextId := by
  unfold restart
  obtain ⟨gone, lingering, heq⟩ := Session.exists_sweep_eq _ _
  rw [heq]
  rfl

namespace Config

variable {c : Config}

theorem Opens.generator_eq {setup : Setup} (h : Opens setup c) :
    c.generator = .ofSeed setup.options.seed ∧
      c.session.host.runtime.options = setup.options := by
  have hequip (s : Session) (hs : ∃ first, s.host.runtime = .start setup.options first) :
      (s.equip setup).host.runtime.generator = .ofSeed setup.options.seed ∧
        (s.equip setup).host.runtime.options = setup.options := by
    obtain ⟨first, hruntime⟩ := hs
    rw [s.generator_equip, (level_equip s setup).1, hruntime]
    exact ⟨rfl, rfl⟩
  cases h with
  | start e => exact hequip _ ⟨_, rfl⟩
  | restart e s => exact hequip _ ⟨_, s.runtime_restart setup.options⟩

end Config

/-! ## Answers -/

/-- The coin of a seed after `n` outputs. -/
def coinAt (seed : UInt64) (n : Nat) : Bool := ((Generator.ofSeed seed).skip n).coin.1

def faultAt (seed : UInt64) (p : Float) (n : Nat) : Bool :=
  (((Generator.ofSeed seed).skip n).chance p).1

/-- Every draw answers `hit` or `faulted`: the operations on the generator themselves, the functions and
the methods that ask it. -/
structure Host.AnswersBy (h : Host) (hit faulted : Bool) : Prop where
  coin : (DrawOp.coin.run h).1 = .bool hit
  injectFault : (DrawOp.injectFault.run h).1 = .bool faulted
  returnBool (a : Args) : (SampleFunction.returnBool.run h a).1 = .ok (.given (.bool hit))
  randomFail (a : Args) : (SampleFunction.randomFail.run h a).1 =
    if hit then (failing (Sample.idCheck a)).map .given
    else .error (.failure Sample.raiseExc)
  maybeIncr (ref : Ref) (a : Args) {n : NativeInt} :
    Sample.Box.counter (h.store.instanceAt ref) = .ok n →
      let settled :=
        Sample.Box.settle (h.store.instanceAt ref) h.runtime.options.mutationPolicy n faulted
      (BoxMethod.maybeIncr.run h ref a).1 = (failing settled.1).map (fun () => .null) ∧
        (BoxMethod.maybeIncr.run h ref a).2.store = h.store.setInstance ref settled.2

theorem Host.answersBy (h : Host) : h.AnswersBy h.coin.1 h.injectFault.1 where
  coin := rfl
  injectFault := rfl
  returnBool _ := rfl
  randomFail a := by
    unfold SampleFunction.run
    dsimp only
    split <;> rfl
  maybeIncr ref a n hn := by
    unfold BoxMethod.run Sample.Box.maybeIncr
    dsimp only
    rw [hn]
    exact ⟨rfl, rfl⟩

/-! ## Main result -/

namespace Config

variable {c : Config}

/-- What is refused leaves the generator alone: a call at the depth limit, a native function or method
whose arguments are rejected, and a method of the box on an instance without a counter. -/
structure RefusesUndrawn (c : Config) : Prop where
  tooDeep {target : Value} {args : List Value} : c.control = .call target args →
    c.limit ≤ c.depth → c.step.generator = c.generator
  functionArguments {f : Function} {args : List Value} {spec : ArgSpec}
    {routine : FunctionRoutine} {e : Failure} : c.control = .call (.function f) args →
    f.body = .native spec routine → spec.parse c.ready.session.host.store args = .error e →
    c.step.generator = c.generator
  methodArguments {id : Identity} {receiver : Value} {d : Descriptor} {args : List Value}
    {routine : MethodRoutine} {e : Failure} : c.control = .call (.method id receiver d) args →
    d.method.body = .native routine →
    d.method.spec.parse c.ready.session.host.store args = .error e →
    c.step.generator = c.generator
  noCounter {id : Identity} {ref : Ref} {d : Descriptor} {args : List Value} {m : BoxMethod}
    {e : Failure} : c.control = .call (.method id (.object ref) d) args →
    d.method.body = .native (.box m) →
    Sample.Box.counter (c.ready.session.host.store.instanceAt ref) = .error e →
    c.step.generator = c.generator

theorem draw?_of_call {target : Value} {args : List Value} (h : c.control = .call target args) :
    c.draw? = if c.limit ≤ c.depth then none else c.ready.counted.host.callDraw? target args := by
  have hlimit : c.ready.limit = c.limit :=
    congrArg (·.options.maxCallDepth) c.runtime_ready
  have hdepth : c.ready.depth = c.depth := congrArg Runtime.depth c.runtime_ready
  unfold draw? advanceDraw?
  rw [c.control_ready, h, hlimit, hdepth]

theorem draw?_of_callDraw?_eq_none {target : Value} {args : List Value}
    (h : c.control = .call target args)
    (hnone : c.ready.counted.host.callDraw? target args = none) : c.draw? = none := by
  rw [draw?_of_call h, hnone, ite_self]

theorem refusesUndrawn (c : Config) : c.RefusesUndrawn where
  tooDeep hcontrol hlimit :=
    generator_step_of_none (by rw [draw?_of_call hcontrol, if_pos hlimit])
  functionArguments hcontrol hbody hparse := by
    refine generator_step_of_none (draw?_of_callDraw?_eq_none hcontrol ?_)
    show Host.functionDraw? _ _ _ = none
    unfold Host.functionDraw?
    rw [hbody]
    dsimp only
    rw [show c.ready.counted.host.store = c.ready.session.host.store from rfl, hparse]
  methodArguments {_ receiver _ _ _ _} hcontrol hbody hparse := by
    refine generator_step_of_none (draw?_of_callDraw?_eq_none hcontrol ?_)
    show Host.methodDraw? _ _ _ _ = none
    unfold Host.methodDraw?
    rw [hbody, show c.ready.counted.host.store = c.ready.session.host.store from rfl]
    cases receiver <;> simp only [hparse]
  -- Of the methods only `maybeIncr` would draw, and it reads the counter first.
  noCounter {_ _ _ _ m _} hcontrol hbody hcounter := by
    refine generator_step_of_none (draw?_of_callDraw?_eq_none hcontrol ?_)
    show Host.methodDraw? _ _ _ _ = none
    unfold Host.methodDraw?
    rw [hbody, show c.ready.counted.host.store = c.ready.session.host.store from rfl]
    dsimp only
    split
    · unfold MethodRoutine.draw? BoxMethod.draw?
      cases m <;> simp only [hcounter]
    · rfl

/-- From the beginning of a runtime on, over any number of expressions: the generator is
`Generator.ofSeed` advanced by one output for each coin and, for a `faultProbability` strictly between 0
and 1, by one for each fault asked for. A step that draws nothing leaves it alone, and so does everything
that `RefusesUndrawn` lists. What a draw answers is `coinAt` and `faultAt` of the seed, the probability
and the number of outputs before it. -/
theorem draws_counted {c₀ c : Config} {draws : List Draw} (setup : Setup) (hopens : Opens setup c₀)
    (h : c₀.Drawing draws c) :
    let seed := setup.options.seed
    let p := setup.options.faultProbability
    let n := draws.count .coin + if 0.0 < p ∧ p < 1.0 then draws.count .fault else 0
    c.generator = (Generator.ofSeed seed).skip n ∧
      (c.draw? = none → c.step.generator = c.generator) ∧
      c.RefusesUndrawn ∧
      ∀ host : Host, host.runtime.generator = c.generator → host.runtime.options = setup.options →
        host.AnswersBy (coinAt seed n) (faultAt seed p n) := by
  intro seed p n
  obtain ⟨hseeded, hoptions⟩ := hopens.generator_eq
  obtain ⟨hgenerator, -⟩ := h.generator_eq
  rw [hseeded, hoptions, outputsOf_eq] at hgenerator
  -- The answers are those of any host with this generator and these options.
  refine ⟨hgenerator, generator_step_of_none, c.refusesUndrawn, fun host hhost hsetup => ?_⟩
  have hcoin : host.coin.1 = coinAt seed n := by
    show host.runtime.generator.coin.1 = _
    rw [hhost, hgenerator]
    rfl
  have hfault : host.injectFault.1 = faultAt seed p n := by
    show (host.runtime.generator.chance host.runtime.options.faultProbability).1 = _
    rw [hhost, hsetup, hgenerator]
    rfl
  rw [← hcoin, ← hfault]
  exact host.answersBy

def fairSetup : Setup := { options := { seed := 7, faultProbability := 0.5 } }

/-- A coin is tossed; then a box is asked twice to move its counter, the first time with an argument that
it does not take. -/
def tossing : Config :=
  let box : Expr :=
    .apply (.object .call) [.apply (.session (.moduleGet "basic" "Cbox")) [], .null, .int 1]
  { control := .eval (.seq
      [.apply (.draw .coin) [],
        .attempt (.apply (.object (.callMethod "maybe_incr")) [box, .null]),
        .attempt (.apply (.object (.callMethod "maybe_incr2")) [box])])
    session := .ofSetup fairSetup }

/-- One output went to the coin and one to the second `maybe_incr`; the rejected call took none. -/
theorem draws_counted_tossing :
    Opens fairSetup tossing ∧ (tossing.after 41).SettledOn [] ∧
      tossing.drawsOf 41 = [.coin, .fault] ∧
      (tossing.after 41).generator = (Generator.ofSeed 7).skip 2 := by
  have hopens : Opens fairSetup tossing := .start _
  have hdraws : tossing.drawsOf 41 = [.coin, .fault] := by decide +kernel
  have hend : (tossing.after 41).SettledOn [] := ⟨by decide +kernel, by decide +kernel⟩
  obtain ⟨hgenerator, -⟩ := draws_counted fairSetup hopens (tossing.drawing_after 41)
  rw [hdraws] at hgenerator
  have hbetween : 0.0 < fairSetup.options.faultProbability ∧
      fairSetup.options.faultProbability < 1.0 := by
    decide +kernel
  rw [if_pos hbetween] at hgenerator
  exact ⟨hopens, hend, hdraws, hgenerator⟩

end Config

end ObjectProtocol
