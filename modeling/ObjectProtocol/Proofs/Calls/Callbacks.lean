import ObjectProtocol.Proofs.Calls.CallingBack

/-!
# Towers of callbacks

What comes out of the function that a box calls back is what the box answers.  So a host function can be
wrapped into others, each of which has the one before called back by a box; the tower costs two calls for
every level and adds nothing else.
-/

namespace ObjectProtocol

namespace Config

variable {c : Config}

/-! ## One level -/

/-- The body is about to be run on what the box holds, `levels` calls further, and what comes out of it is
handed on. -/
structure CallsBack (c : Config) (code : Code) (ref : Ref) (levels : Nat) (b : Config) : Prop where
  control_eq : b.control = .body code
  args_eq : ∃ contents counter, b.args = [contents, .ofNative counter] ∧
    b.session.BoxHolds ref contents counter
  stack_eq : ∃ top, b.stack = top ++ c.stack ∧ (∀ frame ∈ top, frame.handsOn = true) ∧
    activations top = 2 * levels
  session : c.session.Undisturbed b.session

theorem Reachable.exists_boxHolds (h : c.Reachable) {ref : Ref} (hbox : c.session.HasBox ref) :
    ∃ contents counter, c.session.BoxHolds ref contents counter := by
  obtain ⟨i, hi, htype, -⟩ := hbox
  have hsound := (h.within.session.host.store.instances ref).sound
  rw [Store.instanceAt_eq hi] at hsound
  obtain ⟨value, n, hfields⟩ := hsound.fields_of_isBox htype
  exact ⟨value.getD .null, n, Session.boxHolds_of_fields hi hfields⟩

section Level

variable {code : Code} {b : Ref} {x : String} {inner : Expr}

/-- Nothing has come out on top of `below`, and no body is about to be run. -/
def Pending (c : Config) (below : List Frame) : Prop :=
  ¬ c.SettledOn below ∧ ∀ es, c.control ≠ .body es

theorem MovesTo.pending {c' : Config} {control : Control} {stack below : List Frame}
    (h : c.MovesTo c' control stack) (hcontrol : ∀ es, control ≠ .body es)
    (hnot : control.isOutcome = false ∨ stack.length ≠ below.length) : c'.Pending below := by
  refine ⟨not_settledOn ?_, fun es => h.control_eq ▸ hcontrol es⟩
  rw [h.control_eq, h.stack_eq]
  exact hnot

theorem exists_callback (h : c.Reachable) (hcontrol : c.control = .eval (callBack x inner))
    (hx : c.session.globals.get? x = some (.object b)) (hinner : Provides c.session.globals code inner)
    (hbox : c.session.HasBox b) :
    ∃ (f : Function) (id owner : Identity), f.body = .host code ∧
      c.MovesTo (c.after 5) (.call (.method id (.object b) ⟨owner, callbackMethod⟩) [.function f])
        c.stack ∧
      ∀ k ≤ 5, (c.after k).Pending c.stack := by
  -- Five steps: the operand `x`, its value, the operand `inner`, its function, and the look-up of the
  -- method.
  let waiting (done : List Value) (todo : List Expr) : List Frame :=
    .operand (.object (.callMethod "callback")) done todo :: c.stack
  have h₀ : c.MovesTo (c.after 0) (.eval (callBack x inner)) c.stack :=
    ⟨hcontrol, rfl, rfl, ⟨rfl, rfl, rfl⟩⟩
  have h₁ : c.MovesTo (c.after 1) (.eval (variableNamed x)) (waiting [] [inner]) :=
    moves_of_operands hcontrol
  have h₂ : c.MovesTo (c.after 2) (.give (.object b)) (waiting [] [inner]) :=
    h₁.trans (h₁.stack_eq ▸ moves_of_variable h₁.control_eq (h₁.session.globals_eq ▸ hx))
  have h₃ : c.MovesTo (c.after 3) (.eval inner) (waiting [.object b] []) :=
    h₂.trans (moves_of_operand h₂.control_eq h₂.stack_eq)
  obtain ⟨f, hbody, hgiven⟩ :=
    moves_of_provides h₃.control_eq (h₃.session.globals_eq ▸ hinner)
  have h₄ : c.MovesTo (c.after 4) (.give (.function f)) (waiting [.object b] []) :=
    h₃.trans (h₃.stack_eq ▸ hgiven)
  obtain ⟨id, owner, hlookedUp⟩ := moves_of_callMethod (h.after 4) h₄.control_eq h₄.stack_eq
    (hbox.undisturbed h₄.session)
  have h₅ := h₄.trans hlookedUp
  refine ⟨f, id, owner, hbody, h₅, fun k hk => ?_⟩
  have hwaiting (done : List Value) (todo : List Expr) :
      (waiting done todo).length ≠ c.stack.length := Nat.succ_ne_self _
  -- On the way the stack is higher than at the beginning, or the control is no outcome yet.
  match k, hk with
  | 0, _ => exact h₀.pending (fun es heq => by contradiction) (Or.inl rfl)
  | 1, _ => exact h₁.pending (fun es heq => by contradiction) (Or.inl rfl)
  | 2, _ => exact h₂.pending (fun es heq => by contradiction) (Or.inr (hwaiting _ _))
  | 3, _ => exact h₃.pending (fun es heq => by contradiction) (Or.inl rfl)
  | 4, _ => exact h₄.pending (fun es heq => by contradiction) (Or.inr (hwaiting _ _))
  | 5, _ => exact h₅.pending (fun es heq => by contradiction) (Or.inl rfl)

theorem exists_called (h : c.Reachable) (hcontrol : c.control = .eval (callBack x inner))
    (hx : c.session.globals.get? x = some (.object b)) (hinner : Provides c.session.globals code inner)
    (hbox : c.session.HasBox b) (hdepth : c.depth < c.limit) :
    ∃ (f : Function) (contents : Value) (counter : NativeInt) (kept : List Value),
      f.body = .host code ∧
      c.MovesTo (c.after 6) (.call (.function f) [contents, .ofNative counter])
        (.activation kept :: c.stack) ∧
      (c.after 6).session.BoxHolds b contents counter ∧ ∀ k ≤ 6, (c.after k).Pending c.stack := by
  obtain ⟨f, id, owner, hbody, h₅, hpending⟩ := exists_callback h hcontrol hx hinner hbox
  obtain ⟨contents, counter, hholds⟩ := (h.after 5).exists_boxHolds (hbox.undisturbed h₅.session)
  -- The stack is back where it was, and in a reachable configuration the depth goes by the stack.
  have hroom : (c.after 5).depth < (c.after 5).limit := by
    rwa [(h.after 5).depth_eq, limit_after, h₅.stack_eq, ← h.depth_eq]
  obtain ⟨kept, hcalled⟩ := moves_of_callback h₅.control_eq hroom rfl hholds
  have h₆ : c.MovesTo (c.after 6) (.call (.function f) [contents, .ofNative counter])
      (.activation kept :: c.stack) := h₅.trans (h₅.stack_eq ▸ hcalled)
  refine ⟨f, contents, counter, kept, hbody, h₆, hholds.undisturbed hcalled.session, fun k hk => ?_⟩
  rcases Nat.lt_or_eq_of_le hk with hlt | rfl
  · exact hpending k (Nat.le_of_lt_succ hlt)
  · exact h₆.pending (fun es heq => by contradiction) (Or.inl rfl)

/-- Two levels below the limit, `callback` leads to the body of the function. -/
theorem callsBack_level (h : c.Reachable) (hcontrol : c.control = .eval (callBack x inner))
    (hx : c.session.globals.get? x = some (.object b)) (hinner : Provides c.session.globals code inner)
    (hbox : c.session.HasBox b) (hdepth : c.depth + 2 ≤ c.limit) :
    c.CallsBack code b 1 (c.after 7) ∧ ∀ k < 7, (c.after k).Pending c.stack := by
  obtain ⟨f, contents, counter, kept, hbody, h₆, hholds, hpending⟩ :=
    exists_called h hcontrol hx hinner hbox (by omega)
  have hroom : (c.after 6).depth < (c.after 6).limit := by
    rw [(h.after 6).depth_eq, limit_after, h₆.stack_eq, activations_activation, ← h.depth_eq]
    omega
  obtain ⟨hcode, hargs, ⟨kept', hstack⟩, hsession⟩ :=
    step_of_hostFunction h₆.control_eq hroom hbody
  rw [h₆.stack_eq] at hstack
  refine ⟨⟨hcode, ⟨contents, counter, hargs, hholds.undisturbed hsession⟩,
    ⟨[.scope (c.after 6).args, .activation kept', .activation kept], hstack, ?_, rfl⟩,
    h₆.session.trans hsession⟩, fun k hk => hpending k (Nat.le_of_lt_succ hk)⟩
  simp [Frame.handsOn]

/-- Nearer to the limit, one of the two calls raises `tooDeep`. -/
theorem raises_level (h : c.Reachable) (hcontrol : c.control = .eval (callBack x inner))
    (hx : c.session.globals.get? x = some (.object b)) (hinner : Provides c.session.globals code inner)
    (hbox : c.session.HasBox b) (hdepth : c.limit < c.depth + 2) :
    ∃ m, (∀ k < m, (c.after k).Pending c.stack) ∧ (c.after m).control = .raise tooDeep ∧
      ∃ top, (c.after m).stack = top ++ c.stack ∧ ∀ frame ∈ top, frame.handsOn = true := by
  by_cases hfull : c.limit ≤ c.depth
  · -- The call of the method is refused.
    obtain ⟨f, id, owner, -, h₅, hpending⟩ := exists_callback h hcontrol hx hinner hbox
    have hrefused : (c.after 5).limit ≤ (c.after 5).depth := by
      rwa [(h.after 5).depth_eq, limit_after, h₅.stack_eq, ← h.depth_eq]
    obtain ⟨hraise, hstack⟩ := step_of_limit_le h₅.control_eq hrefused
    exact ⟨6, fun k hk => hpending k (Nat.le_of_lt_succ hk), hraise, [], hstack.trans h₅.stack_eq,
      fun frame hframe => by contradiction⟩
  · -- The box calls the function, and that call is refused.
    obtain ⟨f, contents, counter, kept, -, h₆, -, hpending⟩ :=
      exists_called h hcontrol hx hinner hbox (Nat.lt_of_not_le hfull)
    have hrefused : (c.after 6).limit ≤ (c.after 6).depth := by
      rw [(h.after 6).depth_eq, limit_after, h₆.stack_eq, activations_activation, ← h.depth_eq]
      omega
    obtain ⟨hraise, hstack⟩ := step_of_limit_le h₆.control_eq hrefused
    refine ⟨7, fun k hk => hpending k (Nat.le_of_lt_succ hk), hraise, [.activation kept],
      hstack.trans h₆.stack_eq, ?_⟩
    simp [Frame.handsOn]

end Level

/-! ## All levels -/

/-- Nothing has come out on top of `below`, and no body has been run but such as have a box call back. -/
def Wrapping (c : Config) (below : List Frame) : Prop :=
  ¬ c.SettledOn below ∧ ∀ es, c.control = .body es → ∃ x inner, es = [callBack x inner]

theorem Pending.wrapping {below : List Frame} (h : c.Pending below) : c.Wrapping below :=
  ⟨h.1, fun es heq => absurd heq (h.2 es)⟩

theorem not_settledOn_below {above below : List Frame} (hstack : c.stack = above ++ below) {n : Nat}
    (h : ∀ k < n, ¬ (c.after k).SettledOn c.stack) : ∀ k < n, ¬ (c.after k).SettledOn below := by
  intro k hk hend
  refine h k hk ?_
  cases above with
  | nil =>
    rw [hstack]
    exact hend
  | cons frame above =>
    have haccounts : c.Accounts ((frame :: above) ++ below) c.depth := ⟨[], hstack, rfl⟩
    obtain ⟨j, hj, hsettled⟩ := haccounts.exists_settledOn (List.cons_ne_nil _ _) hend.2
    rw [← hstack] at hsettled
    exact absurd hsettled (h j (Nat.lt_trans hj hk))

/-- A `Tower` comes to its innermost function if there is room for two calls a level, and otherwise a call
is refused. -/
theorem Tower.descends {globals : Table Value} {code : Code} {b : Ref} {boxes : List Ref} {e : Expr}
    (htower : Tower globals code b boxes e) (h : c.Reachable) (hcontrol : c.control = .eval e)
    (hglobals : c.session.globals = globals) (hboxes : ∀ ref ∈ b :: boxes, c.session.HasBox ref) :
    ∃ m, (∀ k < m, (c.after k).Wrapping c.stack) ∧
      (c.depth + 2 * (boxes.length + 1) ≤ c.limit ∧
          c.CallsBack code b (boxes.length + 1) (c.after m) ∨
        c.limit < c.depth + 2 * (boxes.length + 1) ∧ (c.after m).control = .raise tooDeep ∧
          ∃ top, (c.after m).stack = top ++ c.stack ∧ ∀ frame ∈ top, frame.handsOn = true) := by
  induction htower generalizing c with
  | @innermost x inner hx hinner =>
    have hbox := hboxes b List.mem_cons_self
    rw [← hglobals] at hx hinner
    rcases Nat.lt_or_ge c.limit (c.depth + 2) with hdepth | hdepth
    · obtain ⟨m, hpending, hraise⟩ := raises_level h hcontrol hx hinner hbox hdepth
      exact ⟨m, fun k hk => (hpending k hk).wrapping, Or.inr ⟨hdepth, hraise⟩⟩
    · obtain ⟨hcalls, hpending⟩ := callsBack_level h hcontrol hx hinner hbox hdepth
      exact ⟨7, fun k hk => (hpending k hk).wrapping, Or.inl ⟨hdepth, hcalls⟩⟩
  | @wrap b' boxes x e inner hx htower hinner ih =>
    have hbox := hboxes b' (by simp)
    rw [← hglobals] at hx hinner
    rw [List.length_cons]
    rcases Nat.lt_or_ge c.limit (c.depth + 2) with hdepth | hdepth
    · obtain ⟨m, hpending, hraise⟩ := raises_level h hcontrol hx hinner hbox hdepth
      exact ⟨m, fun k hk => (hpending k hk).wrapping, Or.inr ⟨by omega, hraise⟩⟩
    · obtain ⟨hcalls, hpending⟩ := callsBack_level h hcontrol hx hinner hbox hdepth
      obtain ⟨top, hstack, htop, hlevels⟩ := hcalls.stack_eq
      -- The body of this level is the expression of the next one.
      have hnext := moves_of_body hcalls.control_eq
      have hundisturbed := hcalls.session.trans hnext.session
      have hwrapper : ∃ x' inner', e = callBack x' inner' := by
        cases htower with
        | innermost | wrap => exact ⟨_, _, rfl⟩
      have hwrapping : ∀ k < 8, (c.after k).Wrapping c.stack := by
        intro k hk
        rcases Nat.lt_or_eq_of_le (Nat.le_of_lt_succ hk) with hlt | rfl
        · exact (hpending k hlt).wrapping
        · refine ⟨not_settledOn (Or.inl (hcalls.control_eq ▸ rfl)), fun es heq => ?_⟩
          rw [hcalls.control_eq] at heq
          obtain ⟨x', inner', rfl⟩ := hwrapper
          exact ⟨x', inner', (Control.body.inj heq).symm⟩
      have hlimit : (c.after 8).limit = c.limit := limit_after c 8
      have hstack' : (c.after 8).stack = top ++ c.stack := hnext.stack_eq.trans hstack
      have hdepth' : (c.after 8).depth = c.depth + 2 := by
        rw [(h.after 8).depth_eq, hstack', activations_append, hlevels, ← h.depth_eq]
        omega
      obtain ⟨m, hinner, hends⟩ := ih (h.after 8) hnext.control_eq
        (hundisturbed.globals_eq.trans hglobals)
        (fun ref hmem => (hboxes ref (by simp at hmem ⊢; tauto)).undisturbed hundisturbed)
      rw [hlimit, hdepth'] at hends
      have hbusy := not_settledOn_below hstack' fun k hk => (hinner k hk).1
      refine ⟨8 + m, forall_after_add (P := fun c' => c'.Wrapping c.stack) hwrapping
        fun k hk => ⟨hbusy k hk, (hinner k hk).2⟩, ?_⟩
      rw [← after_add]
      rcases hends with ⟨hroom, hinnermost⟩ | ⟨hfull, hraise, top', hstack'', htop'⟩
      · obtain ⟨top', hstack'', htop', hlevels'⟩ := hinnermost.stack_eq
        refine Or.inl ⟨by omega, hinnermost.control_eq, hinnermost.args_eq, ⟨top' ++ top, ?_, ?_, ?_⟩,
          hundisturbed.trans hinnermost.session⟩
        · rw [hstack'', hstack', List.append_assoc]
        · exact List.forall_mem_append.2 ⟨htop', htop⟩
        · rw [activations_append, hlevels', hlevels]
          omega
      · refine Or.inr ⟨by omega, hraise, top' ++ top, ?_, List.forall_mem_append.2 ⟨htop', htop⟩⟩
        rw [hstack'', hstack', List.append_assoc]

/-! ## Main result -/

/-- Until what has begun here comes out, no step `Enters` anything. -/
def MakesNoCall (c : Config) : Prop :=
  ∀ k, (∀ j ≤ k, ¬ (c.after j).SettledOn c.stack) → ¬ (c.after k).ready.Enters

theorem MakesNoCall.ends (h : c.MakesNoCall) :
    ∃ k, (∀ j < k, ¬ (c.after j).SettledOn c.stack) ∧
      ((c.after k).SettledOn c.stack ∨ (c.after k).control = .malformed) := by
  have haccounts : c.Accounts c.stack c.depth := ⟨[], rfl, rfl⟩
  obtain ⟨k, hrun, hend⟩ := haccounts.exists_end
  refine ⟨k, hrun, ?_⟩
  by_cases hsettled : (c.after k).SettledOn c.stack
  · exact Or.inl hsettled
  · rcases hend with hsettled | hmalformed | henters
    · exact Or.inl hsettled
    · exact Or.inr hmalformed
    · refine absurd henters (h k fun j hj => ?_)
      rcases Nat.lt_or_eq_of_le hj with hlt | rfl
      · exact hrun j hlt
      · exact hsettled

/-- For every `Tower` of boxes over a function, from every `Reachable` configuration: with room for two
calls a level, the body is run that much deeper, on what the innermost box holds at that moment, and the
tower gives or raises the very outcome of the body, which comes if the body `MakesNoCall` and is well
formed. Without room, the tower raises a `recursionError`, and no body has been run but those that have a
box call back. In both cases `depth` is restored. -/
theorem callbacks_transparent {code : Code} {b : Ref} {boxes : List Ref} {e : Expr} (h : c.Reachable)
    (hcontrol : c.control = .eval e) (htower : Tower c.session.globals code b boxes e)
    (hboxes : ∀ ref ∈ b :: boxes, c.session.HasBox ref) :
    let n := boxes.length + 1
    (c.depth + 2 * n ≤ c.limit → ∃ m, (∀ k ≤ m, ¬ (c.after k).SettledOn c.stack) ∧
      let body := c.after m
      body.control = .body code ∧
      (∃ contents counter, body.args = [contents, .ofNative counter] ∧
        body.session.BoxHolds b contents counter) ∧
      body.depth = c.depth + 2 * n ∧
      (body.MakesNoCall → ∃ k, (∀ j < k, ¬ (body.after j).SettledOn body.stack) ∧
        ((body.after k).SettledOn body.stack ∨ (body.after k).control = .malformed)) ∧
      ∀ k, (∀ j < k, ¬ (body.after j).SettledOn body.stack) → (body.after k).SettledOn body.stack →
        ∃ l, (∀ j < l, ¬ (c.after j).SettledOn c.stack) ∧ (c.after l).SettledOn c.stack ∧
          (c.after l).control = (body.after k).control ∧ (c.after l).depth = c.depth) ∧
    (c.limit < c.depth + 2 * n → ∃ l, (∀ j < l, ¬ (c.after j).SettledOn c.stack) ∧
      (c.after l).control = .raise tooDeep ∧ (c.after l).stack = c.stack ∧
      (c.after l).depth = c.depth ∧
      ∀ k ≤ l, ∀ es, (c.after k).control = .body es → ∃ x inner, es = [callBack x inner]) := by
  intro n
  obtain ⟨m, hwrapping, hends⟩ := htower.descends h hcontrol rfl hboxes
  have hrun : ∀ k < m, ¬ (c.after k).SettledOn c.stack := fun k hk => (hwrapping k hk).1
  have hdepth {l : Nat} (hstack : (c.after l).stack = c.stack) : (c.after l).depth = c.depth := by
    rw [(h.after l).depth_eq, hstack, ← h.depth_eq]
  refine ⟨fun hroom => ?_, fun hfull => ?_⟩
  · rcases hends with ⟨-, hcode, hargs, ⟨top, hstack, htop, hlevels⟩, -⟩ | ⟨hfull, -⟩
    swap
    · exact absurd hroom (Nat.not_le_of_lt hfull)
    refine ⟨m, fun k hk => ?_, hcode, hargs, ?_, fun hcalls => hcalls.ends, fun k hbefore hend => ?_⟩
    · rcases Nat.lt_or_eq_of_le hk with hlt | rfl
      · exact hrun k hlt
      · exact not_settledOn (Or.inl (hcode ▸ rfl))
    · rw [(h.after m).depth_eq, hstack, activations_append, hlevels, ← h.depth_eq]
      omega
    · -- What comes out of the body is handed on by every frame of the tower.
      obtain ⟨hpassing, hsettled, hsame⟩ := settles_of_passes hend.1 rfl (hend.2.trans hstack)
        fun frame hframe => passes_of_handsOn hend.1 (htop frame hframe)
      have hbody := not_settledOn_below hstack hbefore
      rw [after_add, after_add] at hsettled
      rw [after_add (c.after m), after_add] at hsame
      refine ⟨m + (k + top.length), ?_, hsettled, hsame, hdepth hsettled.2⟩
      refine forall_after_add (P := fun c' => ¬ c'.SettledOn c.stack) hrun ?_
      exact forall_after_add (P := fun c' => ¬ c'.SettledOn c.stack) hbody hpassing
  · rcases hends with ⟨hroom, -⟩ | ⟨-, hraise, top, hstack, htop⟩
    · exact absurd hroom (Nat.not_le_of_lt hfull)
    have hpasses : ∀ frame ∈ top, frame.Passes (.raise tooDeep) :=
      fun frame hframe => passes_of_handsOn rfl (htop frame hframe)
    obtain ⟨hbusy, hsettled, hsame⟩ := settles_of_passes rfl hraise hstack hpasses
    rw [after_add] at hsettled hsame
    refine ⟨m + top.length, forall_after_add (P := fun c' => ¬ c'.SettledOn c.stack) hrun hbusy,
      hsame, hsettled.2, hdepth hsettled.2, fun k hk es hbody => ?_⟩
    by_cases hlt : k < m
    · exact (hwrapping k hlt).2 es hbody
    · -- The exception is on its way.
      obtain ⟨j, rfl⟩ : ∃ j, k = m + j := ⟨k - m, by omega⟩
      rw [← after_add, (after_of_passes hraise hstack hpasses (by omega)).1] at hbody
      contradiction

def letBox (name : String) (contents : Expr) : Expr :=
  .apply (.session (.setVariable name))
    [.apply (.object .call) [.apply (.session (.moduleGet "basic" "Cbox")) [], contents, .int 1]]

def stacking : Expr :=
  callBack "outer" (.apply (.closure "g" [callBack "inner" (.apply (.closure "f" [.arg 1]) [])]) [])

def stacked : Config :=
  Config.after
    { control := .eval (.seq [letBox "inner" .null, letBox "outer" (.bool true), stacking])
      session := .ofSetup { options := { maxCallDepth := 4 } } } 30

theorem reachable_stacked : stacked.Reachable := (Reachable.start _ _).after 30

set_option maxRecDepth 4000 in
/-- With `maxCallDepth` 4 the function of `stacking` runs at the limit, on what the inner box holds. -/
theorem callbacks_transparent_stacked :
    stacked.control = .eval stacking ∧ Tower stacked.session.globals [.arg 1] 0 [1] stacking ∧
      (∀ ref ∈ [0, 1], stacked.session.HasBox ref) ∧
      ∃ m contents counter, (stacked.after m).control = .body [.arg 1] ∧
        (stacked.after m).args = [contents, .ofNative counter] ∧
        (stacked.after m).session.BoxHolds 0 contents counter ∧ (stacked.after m).depth = 4 := by
  have hcontrol : stacked.control = .eval stacking := rfl
  have htower : Tower stacked.session.globals [.arg 1] 0 [1] stacking :=
    .wrap rfl (.innermost rfl (.made "f")) (.made "g")
  have hboxes : ∀ ref ∈ [0, 1], stacked.session.HasBox ref := by
    -- The type of boxes has been registered third from last.
    have hlog (t u v : TypeObject) (log : List TypeObject) : v ∈ t :: u :: v :: log := by simp
    rw [List.forall_mem_cons, List.forall_mem_singleton]
    exact ⟨⟨_, rfl, ⟨12, rfl⟩, hlog _ _ _ _⟩, ⟨_, rfl, ⟨12, rfl⟩, hlog _ _ _ _⟩⟩
  obtain ⟨hroom, -⟩ := callbacks_transparent reachable_stacked hcontrol htower hboxes
  obtain ⟨m, -, hcode, ⟨contents, counter, hargs, hholds⟩, hdepth, -⟩ := hroom (by decide +kernel)
  exact ⟨hcontrol, htower, hboxes, m, contents, counter, hcode, hargs, hholds, hdepth⟩

end Config

end ObjectProtocol
