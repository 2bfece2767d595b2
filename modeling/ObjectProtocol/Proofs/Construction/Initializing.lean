import ObjectProtocol.Proofs.Exceptions.Unwinding
import ObjectProtocol.Proofs.Sample.Constancy
import ObjectProtocol.Proofs.Types.Current

/-!
# Initializing an instance

A call of a type makes an instance first and has it initialized then, under a frame that keeps the
instance: whatever comes out of the initializer, the call gives the instance.  The initializer may be host
code, so before it ends it may call and register what it likes.
-/

namespace ObjectProtocol

namespace TypeObject

/-- `pick` finds `a` in a layer of the chain, and nothing in any layer nearer to the type. -/
def Nearest {α : Type} (t : TypeObject) (pick : TypeLayer → Option α) (a : α) : Prop :=
  ∃ nearer layer farther, t.chain = nearer ++ layer :: farther ∧ pick layer = some a ∧
    ∀ other ∈ nearer, pick other = none

theorem findSome?_chain_eq_some_iff {α : Type} {t : TypeObject} {pick : TypeLayer → Option α} {a : α} :
    t.chain.findSome? pick = some a ↔ t.Nearest pick a := List.findSome?_eq_some_iff

end TypeObject

namespace Config

variable {c : Config} {t : TypeObject} {args : List Value}

/-- The call of the type has been counted and an instance made, whose `setUp` comes next. -/
def allocated (c : Config) (t : TypeObject) (args : List Value) : Config :=
  let called := (c.setDepth (c.depth + 1)).push (.activation (c.keptBy (.type t) args))
  let (ref, made) := called.onHost fun h => h.newInstance t
  made.push (.initializer (.object ref))

/-- How the initializer of the instance begins: `born` is where it finds the instance, and `next` the
configuration a step later. -/
inductive Initializes (born : Config) (t : TypeObject) (ref : Ref) (args : List Value)
    (next : Config) : Prop
  /-- The nearest `__init__` method runs with the instance as its receiver. -/
  | method {d : Descriptor} : t.Nearest (·.descriptor? "__init__") d →
    next = (born.enter fun h => h.runMethod d (.object ref) args) →
    Initializes born t ref args next
  /-- There is none, and the nearest initialization slot fills the instance. -/
  | slot {slot : InitSlot} {i : Instance} : (∀ layer ∈ t.chain, layer.descriptor? "__init__" = none) →
    t.Nearest (·.slots.init) slot →
    slot.run born.session.host.store (born.session.host.store.instanceAt ref) args = (.ok (), i) →
    next = { born with
      control := .give .null
      session := born.session.setStore (born.session.host.store.setInstance ref i) } →
    Initializes born t ref args next
  /-- There is neither, and the instance stays as it is. -/
  | nothing : (∀ layer ∈ t.chain, layer.descriptor? "__init__" = none) →
    (∀ layer ∈ t.chain, layer.slots.init = none) → next = { born with control := .give .null } →
    Initializes born t ref args next

theorem stack_allocated (c : Config) (t : TypeObject) (args : List Value) :
    (c.allocated t args).stack = .initializer (.object c.session.host.store.instances.size) ::
      .activation (c.keptBy (.type t) args) :: c.stack := rfl

theorem store_allocated (c : Config) (t : TypeObject) (args : List Value) :
    (c.allocated t args).session.host.store =
      (c.session.host.store.newInstance (.alloc t)).2 := rfl

theorem get?_allocated (c : Config) (t : TypeObject) (args : List Value) :
    (c.allocated t args).session.host.store.instances.get? c.session.host.store.instances.size =
      some (.alloc t) := by
  rw [store_allocated]
  show (c.session.host.store.instances.push _).get? _ = _
  rw [Heap.get?_push, if_pos rfl]

theorem call_type_eq (hdepth : c.depth < c.limit) (hrefusal : c.session.host.refusal? t args = none) :
    c.call (.type t) args = (c.allocated t args).enter fun h =>
      h.setUp t c.session.host.store.instances.size args := by
  have hagreed : ((c.setDepth (c.depth + 1)).push
      (.activation (c.keptBy (.type t) args))).session.host.refusal? t args = none := hrefusal
  rw [call_of_depth_lt hdepth]
  unfold dispatch
  dsimp only
  rw [hagreed]
  rfl

theorem call_type_of_refusal {e : Exception} (hdepth : c.depth < c.limit)
    (hrefusal : c.session.host.refusal? t args = some e) :
    c.call (.type t) args =
      { (c.setDepth (c.depth + 1)).push (.activation (c.keptBy (.type t) args)) with
        control := .raise e } := by
  have hrefused : ((c.setDepth (c.depth + 1)).push
      (.activation (c.keptBy (.type t) args))).session.host.refusal? t args = some e := hrefusal
  rw [call_of_depth_lt hdepth]
  unfold dispatch
  dsimp only
  rw [hrefused]

theorem initializes_enter (born : Config) (t : TypeObject) (ref : Ref) (args : List Value)
    (hraise : ∀ e, (born.enter fun h => h.setUp t ref args).control ≠ .raise e) :
    born.Initializes t ref args (born.enter fun h => h.setUp t ref args) := by
  have henter {entry : Entry} {h : Host} (hf : born.session.host.setUp t ref args = (entry, h)) :=
    enter_eq (f := fun h => h.setUp t ref args) hf
  -- An initializer that raises at once is excluded, which rules out a slot that fails and surplus
  -- arguments.
  have hquiet {e : Exception} (hf : (born.session.host.setUp t ref args).1 = .raise e) : False :=
    hraise e (congrArg control (henter (Prod.ext hf rfl)))
  cases hmethod : t.findMethod? "__init__" with
  | some d =>
    refine .method (TypeObject.findSome?_chain_eq_some_iff.1 hmethod) ?_
    unfold Host.setUp
    rw [hmethod]
  | none =>
    have hno : ∀ layer ∈ t.chain, layer.descriptor? "__init__" = none :=
      List.findSome?_eq_none_iff.1 hmethod
    cases hslot : t.findSlot? (·.init) with
    | some slot =>
      cases hrun : slot.run born.session.host.store (born.session.host.store.instanceAt ref) args with
      | mk outcome i =>
        cases outcome with
        | ok u =>
          refine .slot hno (TypeObject.findSome?_chain_eq_some_iff.1 hslot) hrun ?_
          exact henter (setUp_of_slot_ok hmethod hslot hrun)
        | error f => exact (hquiet (setUp_of_slot hmethod hslot (congrArg Prod.fst hrun))).elim
    | none =>
      refine .nothing hno (List.findSome?_eq_none_iff.1 hslot) ?_
      have hsetUp : born.session.host.setUp t ref args =
          if (t.findSlot? (·.new)).isNone && !args.isEmpty then
            (.raise ⟨.typeError, t.name ++ "() takes no arguments"⟩, born.session.host)
          else (.give .null, born.session.host) := by
        unfold Host.setUp
        rw [hmethod, hslot]
      by_cases hargs : ((t.findSlot? (·.new)).isNone && !args.isEmpty) = true
      · rw [if_pos hargs] at hsetUp
        exact (hquiet (congrArg Prod.fst hsetUp)).elim
      · rw [if_neg hargs] at hsetUp
        exact henter hsetUp

/-! ## From the call to its value -/

/-- A call of a type is refused, or the instance is `allocated` and its initializer begins. -/
theorem step_of_call_type (hcall : c.control = .call (.type t) args) :
    (∃ e frames, c.step.control = .raise e ∧ c.step.stack = frames ++ c.stack ∧ .attempt ∉ frames) ∨
      c.step = (c.ready.allocated t args).enter fun h =>
        h.setUp t c.session.host.store.instances.size args := by
  rw [step_eq_advance, advance_of_call (c.control_ready.trans hcall), ← c.stack_ready,
    ← c.instances_ready]
  by_cases hlimit : c.ready.limit ≤ c.ready.depth
  · rw [call_of_limit_le hlimit]
    exact Or.inl ⟨_, [], rfl, rfl, List.not_mem_nil⟩
  have hdepth := Nat.lt_of_not_le hlimit
  cases hrefused : c.ready.session.host.refusal? t args with
  | some e =>
    rw [call_type_of_refusal hdepth hrefused]
    exact Or.inl ⟨e, [.activation (c.ready.keptBy (.type t) args)], rfl, rfl, by simp⟩
  | none => exact Or.inr (call_type_eq hdepth hrefused)

/-- What the initializer gives is dropped: `Frame.initializer` gives the instance, and so does the call.
-/
theorem gives_receiver {w receiver : Value} {kept : List Value} {rest : List Frame}
    (hcontrol : c.control = .give w) (hstack : c.stack = .initializer receiver :: .activation kept :: rest) :
    c.step.stack = .activation kept :: rest ∧ c.step.step.control = .give receiver ∧
      c.step.step.stack = rest := by
  have hinstance : c.step.control = .give receiver ∧ c.step.stack = .activation kept :: rest := by
    rw [step_eq_advance, advance_of_give (c.control_ready.trans hcontrol)
      (c.stack_ready.trans hstack)]
    exact ⟨rfl, rfl⟩
  refine ⟨hinstance.2, ?_⟩
  rw [step_eq_advance, advance_of_give ((control_ready _).trans hinstance.1)
    ((stack_ready _).trans hinstance.2)]
  exact ⟨rfl, rfl⟩

theorem exists_initialized (hcall : c.control = .call (.type t) args) {n : Nat} {v : Value}
    (hfirst : ∀ k < n, ¬ (c.after k).SettledOn c.stack) (hend : (c.after n).SettledOn c.stack)
    (hgive : (c.after n).control = .give v) :
    (c.step = (c.ready.allocated t args).enter fun h =>
        h.setUp t c.session.host.store.instances.size args) ∧
      (c.ready.allocated t args).Initializes t c.session.host.store.instances.size args c.step ∧
      ∃ k w, (c.after k).SettledOn (c.ready.allocated t args).stack ∧
        (c.after k).control = .give w ∧ n = k + 2 ∧
        v = .object c.session.host.store.instances.size := by
  -- Nothing is raised that comes out below, for a value does.
  have hnoRaise {m : Nat} {l : List Frame} {e : Exception} (hle : m ≤ n)
      (hraise : (c.after m).control = .raise e) (hstack : (c.after m).stack = l ++ c.stack)
      (hcatch : .attempt ∉ l) : False := by
    have hcontrol := control_of_settled hraise hstack hcatch hle hfirst hend
    rw [hgive] at hcontrol
    contradiction
  obtain ⟨m, rfl⟩ : ∃ m, n = m + 1 := by
    refine Nat.exists_eq_succ_of_ne_zero fun hzero => ?_
    have hout := hend.1
    rw [hzero, after_zero, hcall] at hout
    contradiction
  have hpositive : 1 ≤ m + 1 := Nat.le_add_left 1 m
  rcases step_of_call_type hcall with ⟨e, frames, hraise, hstack, hcatch⟩ | hstep
  · exact (hnoRaise (m := 1) hpositive hraise hstack hcatch).elim
  have hstack : (c.ready.allocated t args).stack =
      [.initializer (.object c.session.host.store.instances.size),
        .activation (c.ready.keptBy (.type t) args)] ++ c.stack := by
    rw [stack_allocated, c.stack_ready, c.instances_ready]
    rfl
  obtain ⟨top, htop, hgrows⟩ := exists_grows_enter (c.ready.allocated t args)
    (fun h => h.setUp t c.session.host.store.instances.size args) (Host.drawnTo_setUp _ t _ args)
  rw [← hstep] at hgrows
  have hquiet (e : Exception) : c.step.control ≠ .raise e := by
    intro hraise
    refine hnoRaise (m := 1) (l := top ++
      [.initializer (.object c.session.host.store.instances.size),
        .activation (c.ready.keptBy (.type t) args)]) hpositive hraise ?_ ?_
    · rw [after_succ, after_zero, hgrows.stack, hstack, List.append_assoc]
    · rcases htop with rfl | rfl <;> simp
  refine ⟨hstep, hstep ▸ initializes_enter _ _ _ _ (hstep ▸ hquiet), ?_⟩
  have haccounts : c.step.Accounts ([.initializer (.object c.session.host.store.instances.size),
      .activation (c.ready.keptBy (.type t) args)] ++ c.stack) (c.ready.allocated t args).depth := by
    refine ⟨top, hstack ▸ hgrows.stack, ?_⟩
    rw [hgrows.depth]
    rcases htop with rfl | rfl <;> rfl
  -- On the way down to where the call began, the initializer has come to its end.
  obtain ⟨k, hk, hsettled⟩ := haccounts.exists_settledOn (by simp) (by rw [after_step]; exact hend.2)
  rw [after_step, ← hstack] at hsettled
  cases hcontrol : (c.after (k + 1)).control with
  | give w =>
    obtain ⟨hkept, hvalue, hleft⟩ := gives_receiver hcontrol (hsettled.2.trans hstack)
    rw [← after_succ] at hkept
    rw [← after_succ, ← after_succ] at hvalue hleft
    have hat : m + 1 = k + 1 + 2 := by
      refine Nat.le_antisymm (Nat.le_of_not_lt fun hlt => ?_) ?_
      · exact hfirst _ hlt ⟨by rw [hvalue]; rfl, hleft⟩
      · refine Nat.lt_of_le_of_ne (by omega) fun heq => ?_
        -- The frame of the call is still there.
        have hlength := congrArg List.length (hkept.symm.trans (heq ▸ hend.2))
        simp at hlength
    refine ⟨k + 1, w, hsettled, hcontrol, hat, ?_⟩
    rw [hat, hvalue] at hgive
    exact (Control.give.inj hgive).symm
  | raise e =>
    exact (hnoRaise (by omega) hcontrol (hsettled.2.trans hstack) (by simp)).elim
  | eval | body | call | malformed =>
    have hout := hsettled.1
    rw [hcontrol] at hout
    contradiction

/-! ## Main result -/

/-- In every `Reachable` configuration, every call of a type `t` that ends with a value gives an instance
that was not there before, of the very type `t`, with a dictionary iff a layer of `t` is a host class. Its
initializer, the `Nearest` one, found it zeroed, and the value of that initializer is dropped. It keeps
its type ever after, and a type that the present runtime has registered is `live` until a restart. -/
theorem construction_fresh (h : c.Reachable) (hcall : c.control = .call (.type t) args) {n : Nat}
    {v : Value} (hfirst : ∀ k < n, ¬ (c.after k).SettledOn c.stack)
    (hend : (c.after n).SettledOn c.stack) (hgive : (c.after n).control = .give v) :
    let ref := c.session.host.store.instances.size
    let born := c.ready.allocated t args
    v = .object ref ∧ (∀ w : Value, w.Exists c.session.host.store → w.is v = false) ∧
    born.session.host.store.instances.get? ref = some
      { type := t
        fields := t.own.layout.map Field.zero
        dict := if t.own.hasDict then some {} else none } ∧
    born.Initializes t ref args c.step ∧
    (∃ k w, (c.after k).SettledOn born.stack ∧ (c.after k).control = .give w ∧ n = k + 2) ∧
    ∀ events c', (c.after n).History events c' →
      (∃ i, c'.session.host.store.instances.get? ref = some i ∧ i.type = t ∧
        (i.dict.isSome = true ↔ ∃ layer ∈ t.chain, layer.kind = .host)) ∧
      c'.session.host.runtime.typeOf c'.session.host.store v = c'.session.host.store.live t ∧
      (t ∈ c.session.host.runtime.registry.log →
        (∀ event ∈ events, event.isRestart = false) →
          c'.session.host.runtime.typeOf c'.session.host.store v = .ok t) := by
  intro ref born
  obtain ⟨hstep, hinitializes, k, w, hsettled, hw, hn, rfl⟩ :=
    exists_initialized hcall hfirst hend hgive
  have hborn : born.session.host.store.instances.get? ref = some (.alloc t) := by
    have hnew := get?_allocated c.ready t args
    rwa [c.instances_ready] at hnew
  refine ⟨rfl, fun w hw => ?_, hborn, hinitializes, ⟨k, w, hsettled, hw, hn⟩,
    fun events c' hhistory => ?_⟩
  · cases w with
    | object other => exact decide_eq_false (Nat.ne_of_lt hw)
    | null | bool | int | float | str | tuple | list | dict | type | function | method | iterator =>
      rfl
  -- The type and the dictionary are those that the instance was born with.
  have hbefore : c.History (c.eventsOf n) (c.after n) := c.history_after n
  have hafter : c.step.LeadsTo c' := by
    have hlater : (c.step.after (k + 1)).History events c' := by
      rw [after_step, ← hn]
      exact hhistory
    exact ((c.step.history_after (k + 1)).trans hlater).leadsTo
  have hset : born.session.host.store.KeepsShapes c.step.session.host.store := by
    rw [hstep, session_enter]
    exact (born.session.host.growsTo_setUp t ref args).store.shapes
  obtain ⟨i, hi, hshape⟩ := (hset.trans hafter.keepsShapes) ref _ hborn
  have htype : i.type = t := hshape.type_eq
  have htypeOf : c'.session.host.runtime.typeOf c'.session.host.store (.object ref) =
      c'.session.host.store.live t := by
    show c'.session.host.store.live (c'.session.host.store.instanceAt ref).type = _
    rw [Store.instanceAt_eq hi, htype]
  refine ⟨⟨i, hi, htype, ?_⟩, htypeOf, fun hregistered hevents => ?_⟩
  · have hbuilt : t.Built := by
      have ht := h.within.control (.type t) (by rw [hcall]; exact List.mem_cons_self)
      exact ht.of_type
    rw [hshape.isSome_eq, ← hbuilt.hasDict_iff]
    unfold Instance.alloc
    dsimp only
    cases t.own.hasDict <;> simp
  · have hlog : t ∈ c'.session.host.runtime.registry.log := by
      have hlogs := (hbefore.logs (c.isRestart_eventsOf n)).trans (hhistory.logs hevents)
      rw [hlogs.log_eq]
      exact List.mem_append_right _ hregistered
    rw [htypeOf]
    exact (h.leadsTo (hbefore.trans hhistory).leadsTo).live_eq hlog

/-- A class whose initializer registers another class of its name, and gives a number. -/
def remakerDecl : TypeDecl Code :=
  { name := "Remaker", kind := .host
    methods := [⟨"__init__", .empty, .host
      [.apply (.declare { name := "Remaker", kind := .host }) [], .int 1]⟩] }

def remakerType : TypeObject :=
  ⟨{ id := 12, name := "Remaker", kind := .host, methods := remakerDecl.methods,
     basetype := true, hasDict := true }, []⟩

def remaking : Config :=
  Config.after
    { control := .eval (.apply (.object .call) [.apply (.declare remakerDecl) []])
      session := .ofSetup { sample := false } } 3

theorem reachable_remaking : remaking.Reachable := (Reachable.start _ _).after 3

/-- The instance is of the class that was called, not of the newer one of that name, and is given although
the initializer gave a number. -/
theorem construction_fresh_remaking :
    let c := remaking.after 9
    remaking.control = .call (.type remakerType) [] ∧ (remaking.after 7).control = .give (.int 1) ∧
      c.control = .give (.object 0) ∧
      (c.session.host.runtime.registry.named? "Remaker").map (·.id) = some 13 ∧
      c.session.host.runtime.typeOf c.session.host.store (.object 0) = .ok remakerType ∧
      ∃ i, c.session.host.store.instances.get? 0 = some i ∧ i.dict.isSome = true := by
  intro c
  have hcall : remaking.control = .call (.type remakerType) [] := rfl
  have hregistered : remakerType ∈ remaking.session.host.runtime.registry.log :=
    List.mem_cons_self
  -- Stacks of different heights are told apart by evaluation.
  have hbusy : ∀ k < 9, (remaking.after k).control.isOutcome = false ∨
      (remaking.after k).stack.length ≠ remaking.stack.length := by
    decide +kernel
  have hfirst : ∀ k < 9, ¬ (remaking.after k).SettledOn remaking.stack :=
    fun k hk => not_settledOn (hbusy k hk)
  obtain ⟨v, hgive⟩ : ∃ v, c.control = .give v := ⟨_, rfl⟩
  obtain ⟨rfl, -, -, -, -, hlater⟩ :=
    construction_fresh reachable_remaking hcall hfirst ⟨rfl, rfl⟩ hgive
  obtain ⟨⟨i, hi, -, hdict⟩, -, htypeOf⟩ := hlater [] c .refl
  have hsame := htypeOf hregistered fun event hevent => by contradiction
  exact ⟨hcall, rfl, hgive, rfl, hsame, i, hi, hdict.2 ⟨_, List.mem_cons_self, rfl⟩⟩

end Config

end ObjectProtocol
