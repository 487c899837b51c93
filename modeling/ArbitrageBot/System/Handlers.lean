/-
The control handlers: what each still has to do, and which operations it can bring
about on the way.
-/

import ArbitrageBot.Library.Transition
import ArbitrageBot.System.Effects

namespace ArbitrageBot

open Transition

namespace Bot

variable {settings : Settings} {now : Instant} {bot after : Bot} {event : Event}

theorem step_handlers (taken : bot.step settings event = some after) :
    ((∀ index, event.2 ≠ .handler index) ∧ after.handlers = bot.handlers) ∨
    (∃ request, event.2 = .request request ∧ bot.boot = .serving ∧
      after.handlers = bot.handlers ++ [request.start settings]) ∨
    (∃ index request instr rest, event.2 = .handler index ∧
      bot.handlers[index]? = some ⟨request, instr :: rest⟩ ∧
      after.handlers =
        bot.handlers.set index ⟨request, (bot.runInstr settings event.1 instr).2 ++ rest⟩) ∨
    (∃ index, event.2 = .abort index ∧
      after.handlers = bot.handlers.modify index fun handler => { handler with todo := [] }) := by
  obtain ⟨now, action⟩ := event
  rcases step_cases taken with ⟨answers, rfl, rfl⟩ | ⟨rfl, rfl⟩ | ⟨rfl, booted⟩ |
    ⟨request, rfl, serving, rfl⟩ | ⟨index, rfl, handled⟩ | ⟨index, rfl, rfl⟩
  · exact .inl ⟨fun index => nofun, (scanStep_frame answers).1⟩
  · exact .inl ⟨fun index => nofun, rfl⟩
  · refine .inl ⟨fun index => nofun, ?_⟩
    rcases bootStep_some booted with ⟨-, rfl⟩ | ⟨rows, -, rfl⟩ <;> rfl
  · exact .inr (.inl ⟨request, rfl, serving, rfl⟩)
  · obtain ⟨request, instr, rest, found, rfl⟩ := handlerStep_some handled
    refine .inr (.inr (.inl ⟨index, request, instr, rest, rfl, found, ?_⟩))
    cases instr <;> rfl
  · exact .inr (.inr (.inr ⟨index, rfl, rfl⟩))

/-- A handler after a step was there before, is new, has just moved, or has nothing to do. -/
theorem step_handler_origin (taken : bot.step settings event = some after) {handler : Handler}
    (member : handler ∈ after.handlers) :
    handler ∈ bot.handlers ∨
    (∃ request, event.2 = .request request ∧ handler = request.start settings) ∨
    (∃ index instr rest, event.2 = .handler index ∧
      bot.handlers[index]? = some ⟨handler.request, instr :: rest⟩ ∧
      handler.todo = (bot.runInstr settings event.1 instr).2 ++ rest) ∨
    handler.todo = [] := by
  rcases step_handlers taken with ⟨-, same⟩ | ⟨request, requested, -, grown⟩ |
    ⟨index, request, instr, rest, handled, found, moved⟩ | ⟨index, -, emptied⟩
  · rw [same] at member
    exact .inl member
  · rw [grown, List.mem_append, List.mem_singleton] at member
    rcases member with old | new
    · exact .inl old
    · exact .inr (.inl ⟨request, requested, new⟩)
  · rw [moved] at member
    rcases List.mem_or_eq_of_mem_set member with old | new
    · exact .inl old
    · subst new
      exact .inr (.inr (.inl ⟨index, instr, rest, handled, found, rfl⟩))
  · rw [emptied] at member
    obtain ⟨position, within, rfl⟩ := List.mem_iff_getElem.mp member
    rw [List.getElem_modify]
    split
    · exact .inr (.inr (.inr rfl))
    · exact .inl (List.getElem_mem _)

/-- What a step makes of a handler: nothing, one step further, or an abandoned handler. -/
theorem step_handler_fate (taken : bot.step settings event = some after) {index : Nat}
    {handler : Handler} (found : bot.handlers[index]? = some handler) :
    after.handlers[index]? = some handler ∨
    (∃ instr rest, event.2 = .handler index ∧ handler.todo = instr :: rest ∧
      ⟨handler.request, (bot.runInstr settings event.1 instr).2 ++ rest⟩ ∈ after.handlers) ∨
    event.2 = .abort index := by
  rcases step_handlers taken with ⟨-, same⟩ | ⟨request, -, -, grown⟩ |
    ⟨position, request, instr, rest, handled, moving, moved⟩ | ⟨position, aborted, emptied⟩
  · exact .inl (same ▸ found)
  · left
    rw [grown, List.getElem?_append_left (List.getElem?_eq_some_iff.mp found).1]
    exact found
  · by_cases here : position = index
    · subst here
      rw [moving] at found
      cases found
      obtain ⟨within, -⟩ := List.getElem?_eq_some_iff.mp moving
      refine .inr (.inl ⟨instr, rest, handled, rfl, ?_⟩)
      rw [moved]
      exact List.mem_set within _
    · left
      rw [moved, List.getElem?_set_ne here, found]
  · by_cases here : position = index
    · subst here
      exact .inr (.inr aborted)
    · left
      rw [emptied]
      simp [here, found]

theorem step_handler_moved (taken : bot.step settings event = some after) {index : Nat}
    (handled : event.2 = .handler index) {request : Request} {instr : Instr} {rest : List Instr}
    (found : bot.handlers[index]? = some ⟨request, instr :: rest⟩) :
    ⟨request, (bot.runInstr settings event.1 instr).2 ++ rest⟩ ∈ after.handlers := by
  rcases step_handlers taken with ⟨others, -⟩ | ⟨asked, requested, -, -⟩ |
    ⟨position, moving, first, tail, here, standing, moved⟩ | ⟨position, aborted, -⟩
  · exact absurd handled (others index)
  · rw [handled] at requested
    cases requested
  · rw [handled] at here
    cases here
    rw [found] at standing
    cases standing
    rw [moved]
    exact List.mem_set (List.getElem?_eq_some_iff.mp found).1 _
  · rw [handled] at aborted
    cases aborted

theorem runInstr_added {instr added : Instr}
    (member : added ∈ (bot.runInstr settings now instr).2) :
    (∃ routeId state, added = .commitRouteState routeId state) ∨
      ∃ routeId, added = .snapshot none routeId := by
  cases instr with
  | snapshot op routeId => exact .inl ⟨_, _, List.mem_singleton.mp member⟩
  | snapshotAll =>
      obtain ⟨route, -, rfl⟩ := List.mem_map.mp member
      exact .inr ⟨_, rfl⟩
  | _ => cases member

/-- What holds of every instruction of the programs, and of the instructions they expand to, holds
of whatever the handlers still have to do. -/
theorem step_instructions {Holds : Request → Instr → Prop}
    (programs : ∀ request, ∀ instr ∈ request.program settings, Holds request instr)
    (snapshots : ∀ request routeId, Holds request (.snapshot none routeId))
    (upserts : ∀ request routeId state, Holds request (.commitRouteState routeId state))
    (before : ∀ handler ∈ bot.handlers, ∀ instr ∈ handler.todo, Holds handler.request instr)
    (taken : bot.step settings event = some after) :
    ∀ handler ∈ after.handlers, ∀ instr ∈ handler.todo, Holds handler.request instr := by
  intro handler member instr inTodo
  rcases step_handler_origin taken member with old | ⟨request, -, rfl⟩ |
    ⟨index, head, rest, -, found, moved⟩ | empty
  · exact before handler old instr inTodo
  · exact programs request instr inTodo
  · rw [moved, List.mem_append] at inTodo
    rcases inTodo with added | kept
    · rcases runInstr_added added with ⟨routeId, state, rfl⟩ | ⟨routeId, rfl⟩
      · exact upserts _ _ _
      · exact snapshots _ _
    · exact before ⟨handler.request, head :: rest⟩ (List.mem_of_getElem? found) instr
        (.tail head kept)
  · rw [empty] at inTodo
    cases inTodo

/-- Where no instruction of a program expands, a handler always stands at a suffix of it. -/
theorem step_suffix {plain : Request → Prop}
    (unexpanded : ∀ request, plain request → ∀ instr ∈ request.program settings,
      (bot.runInstr settings event.1 instr).2 = [])
    (before : ∀ handler ∈ bot.handlers, plain handler.request →
      handler.todo <:+ handler.request.program settings)
    (taken : bot.step settings event = some after) :
    ∀ handler ∈ after.handlers, plain handler.request →
      handler.todo <:+ handler.request.program settings := by
  intro handler member isPlain
  rcases step_handler_origin taken member with old | ⟨request, -, rfl⟩ |
    ⟨index, instr, rest, -, found, moved⟩ | empty
  · exact before handler old isPlain
  · exact List.suffix_rfl
  · have suffix := before _ (List.mem_of_getElem? found) isPlain
    have alone := unexpanded handler.request isPlain instr (suffix.subset List.mem_cons_self)
    rw [moved, alone, List.nil_append]
    exact (List.suffix_cons instr rest).trans suffix
  · rw [empty]
    exact List.nil_suffix

/-- The handlers perform operators' operations only. -/
def lawful (bot : Bot) : Prop :=
  ∀ handler ∈ bot.handlers, ∀ instr ∈ handler.todo, ∀ op ∈ instr.operations,
    op.byOperator = true

/-- What the programs of the handlers are made of. -/
structure Programmed (request : Request) (instr : Instr) : Prop where
  operator : ∀ op ∈ instr.operations, op.byOperator = true
  uncommitted : instr.upsert = none
  lifts : instr.lifts = true → request = .resume

theorem programmed {request : Request} {instr : Instr}
    (member : instr ∈ request.program settings) : Programmed request instr := by
  have all : (request.program settings).all (fun instr =>
      instr.operations.all RiskOp.byOperator && instr.upsert.isNone &&
        (!instr.lifts || request = .resume)) = true := by
    cases request with
    | switchMode target token =>
        cases target with
        | live =>
            simp only [Request.program]
            split <;> rfl
        | _ => rfl
    | clearCooldown routeId =>
        simp only [Request.program]
        split <;> rfl
    | _ => rfl
  have checked := List.all_eq_true.mp all instr member
  simp only [Bool.and_eq_true, Bool.or_eq_true, Bool.not_eq_true', decide_eq_true_eq,
    List.all_eq_true, Option.isNone_iff_eq_none] at checked
  obtain ⟨⟨operator, uncommitted⟩, lifting⟩ := checked
  refine ⟨operator, uncommitted, fun lifts => lifting.resolve_left ?_⟩
  rw [lifts]
  nofun

theorem step_lawful (lawful : bot.lawful) (taken : bot.step settings event = some after) :
    after.lawful :=
  step_instructions (fun _ _ member => (programmed member).operator) (fun _ _ => nofun)
    (fun _ _ _ => nofun) lawful taken

theorem reaches_lawful {start : Bot} (noHandlers : start.handlers = [])
    {allowed : Bot → Event → Prop} {trace : List (Bot × Event)}
    (run : Reaches (Bot.step settings) allowed start trace bot) : bot.lawful := by
  apply run.invariant
  · intro handler member
    rw [noHandlers] at member
    cases member
  · exact fun _ _ _ lawful _ taken => step_lawful lawful taken

theorem instr?_some {index : Nat} {instr : Instr} (next : bot.instr? index = some instr) :
    ∃ handler ∈ bot.handlers, instr ∈ handler.todo := by
  obtain ⟨handler, found, head⟩ := Option.bind_eq_some_iff.mp next
  exact ⟨handler, List.mem_of_getElem? found, List.mem_of_head? head⟩

/-- An operation of a step is the loop's, start-up's or an operator's. -/
theorem operation_cases (lawful : bot.lawful) {op : RiskOp}
    (member : op ∈ bot.operations settings event) :
    (∃ answers, event.2 = .scan answers ∧ op ∈ bot.scanOperations settings answers) ∨
    (∃ rows row, bot.boot = .listed rows ∧ row ∈ rows ∧
      op = .hydrateRouteState row.1 row.2) ∨
    op.byOperator = true := by
  obtain ⟨now, action⟩ := event
  cases action with
  | scan answers => exact .inl ⟨answers, rfl, member⟩
  | boot =>
      simp only [operations] at member
      split at member
      · rename_i rows listed
        obtain ⟨row, inRows, rfl⟩ := List.mem_map.mp member
        exact .inr (.inl ⟨rows, row, listed, inRows, rfl⟩)
      · cases member
  | handler index =>
      simp only [operations] at member
      cases next : bot.instr? index with
      | none => simp [next] at member
      | some instr =>
          obtain ⟨handler, inHandlers, inTodo⟩ := instr?_some next
          simp only [next, Option.map_some, Option.getD_some] at member
          exact .inr (.inr (lawful handler inHandlers instr inTodo op member))
  | _ => cases member

end Bot

end ArbitrageBot
