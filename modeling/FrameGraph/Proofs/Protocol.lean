import FrameGraph.Recording.Scene

/-!
# The Protocol of a Command Stream

A device takes a command stream only if its brackets match. A debug label and
a render pass are brackets, and they share one stack, because a label that is
opened inside a render pass has to be closed inside it. Most commands care
about one thing besides: whether a render pass is open around them. Barriers,
blits and dispatches must have none, clears and draws must have the one they
are meant for.

Which one that is cannot be read off a command, so the commands of a stream
are paired with who they are recorded for. A render pass is begun for a
context, and an operation may only draw in a render pass of its own context,
with the render pass and framebuffer that its surface is bound to. The
closing pass may draw in any render pass on the presented image.

`Command.role` sorts the alphabet into the few kinds that the protocol tells
apart, and `Protocol.run` walks a stream with the stack of open brackets.
That begins and ends of render passes alternate is not a rule of its own: it
follows from at most one of them being on the stack.

## Main definitions

* `Origin`: Who a command is recorded for.
* `Bracket`, `Begun`: What may be open.
* `Command.role`: What the protocol has to know of a command.
* `Protocol.advance`, `Protocol.run`: One command, and a stream.
* `Renderers.DrawsOnly`: What is asked of the renderers of others.
* `passEdges`: The begins and ends of render passes.

## Theorems

* `Protocol.run_append`: A stream in two parts.
* `Protocol.singlePass_advance`: At most one render pass is open.
* `Protocol.openPass_of_run`: What a command finds open.
* `Protocol.passEdges_of_run`: Begins and ends of render passes alternate.
* `Protocol.run_of_drawing`: Bindings and draws leave the brackets alone.
-/

namespace FrameGraph

open Gpu

/-- Who a command is recorded for. -/
inductive Origin where
  | start
  | op (operation : FrameOp)
  | closing
  deriving DecidableEq, Repr

namespace Origin

/-- The context for which a render pass is begun. The start of a frame begins
    none. -/
def context? : Origin → Option Context
  | start => none
  | op operation => some operation.context
  | closing => some ⟨Scene.closingIdentity, .swapchain⟩

/-- Drawing in a render pass of the context is allowed. -/
def drawsIn (context : Context) : Origin → Bool
  | start => false
  | op operation => operation.context = context
  | closing => context.targetsSwapchain

/-- Commands that are recorded for one origin. -/
def sends (origin : Origin) (commands : List Command) : List (Origin × Command) :=
  commands.map fun command => (origin, command)

theorem sends_append (origin : Origin) (first second : List Command) :
    origin.sends (first ++ second) = origin.sends first ++ origin.sends second :=
  List.map_append

theorem map_snd_sends (origin : Origin) (commands : List Command) :
    (origin.sends commands).map Prod.snd = commands := by
  unfold sends
  rw [List.map_map]
  exact List.map_id commands

end Origin

/-- A render pass that was begun for a context. -/
structure Begun where
  context : Context
  renderPass : UInt64
  framebuffer : UInt64
  deriving DecidableEq, Repr

namespace Begun

/-- It has the render pass and framebuffer that its surface is bound to. -/
def isBound (target? : Surface → Option TargetBinding) (begun : Begun) : Bool :=
  match target? begun.context.target with
  | none => false
  | some binding =>
    begun.renderPass = binding.renderPass && begun.framebuffer = binding.framebuffer

end Begun

/-- What may be open. Brackets that are open make a list, innermost first. -/
inductive Bracket where
  | label
  | renderPass (begun : Begun)
  deriving DecidableEq, Repr

namespace Bracket

/-- The render pass that is open, if one is. -/
def openPass? : List Bracket → Option Begun
  | [] => none
  | label :: rest => openPass? rest
  | renderPass begun :: _ => some begun

end Bracket

/-- What the protocol has to know of a command. -/
inductive Role where
  /-- Starts or ends a stream. -/
  | framing
  | opensLabel
  | closesLabel
  | opensPass (renderPass framebuffer : UInt64)
  | closesPass
  /-- Needs that no render pass is open. -/
  | outside
  /-- Needs a render pass that is open. -/
  | inside
  | anywhere
  deriving DecidableEq, Repr

namespace Gpu.Command

/-- What the protocol has to know of a command. -/
def role : Command → Role
  | reset | begin _ _ | finish => .framing
  | beginLabel _ _ => .opensLabel
  | endLabel => .closesLabel
  | beginRenderPass renderPass framebuffer _ _ => .opensPass renderPass framebuffer
  | endRenderPass => .closesPass
  | memoryBarrier _ | imageBarrier _ _ | bufferBarrier _ _ | blitImage .. | dispatch .. => .outside
  | clearAttachments _ _ | draw .. | drawIndexed .. | drawIndirect .. | drawIndexedIndirect ..
  | callMesh .. | callOverlay .. => .inside
  | setViewport _ _ | setScissor _ _ | bindPipeline _ _ => .anywhere

/-- The command binds or draws, as what others draw may. -/
def draws : Command → Bool
  | setViewport _ _ | setScissor _ _ | bindPipeline _ _ | draw .. | drawIndexed ..
  | drawIndirect .. | drawIndexedIndirect .. => true
  | _ => false

end Gpu.Command

/-- What others draw is made of bindings and draws. -/
structure Renderers.DrawsOnly (renderers : Renderers) : Prop where
  mesh : ∀ renderer renderPass state, ∀ command ∈ renderers.mesh renderer renderPass state,
    command.draws = true
  overlay : ∀ overlay, renderers.overlay = some overlay → ∀ renderPass area,
    ∀ command ∈ overlay renderPass area, command.draws = true

namespace Protocol

variable (target? : Surface → Option TargetBinding)

/-- The brackets that are open after one more command, if it is allowed. -/
def advance (stack : List Bracket) (origin : Origin) (command : Command) :
    Option (List Bracket) :=
  match command.role with
  | .framing => none
  | .opensLabel => some (.label :: stack)
  | .closesLabel =>
    match stack with
    | .label :: rest => some rest
    | _ => none
  | .opensPass renderPass framebuffer =>
    match Bracket.openPass? stack, origin.context? with
    | none, some context => some (.renderPass ⟨context, renderPass, framebuffer⟩ :: stack)
    | _, _ => none
  | .closesPass =>
    match stack with
    | .renderPass _ :: rest => some rest
    | _ => none
  | .outside => if (Bracket.openPass? stack).isNone then some stack else none
  | .inside =>
    match Bracket.openPass? stack with
    | none => none
    | some begun =>
      if origin.drawsIn begun.context && begun.isBound target? then some stack else none
  | .anywhere => some stack

/-- The brackets that are open after a stream, if all of it is allowed. -/
def run : List (Origin × Command) → List Bracket → Option (List Bracket)
  | [], stack => some stack
  | sent :: rest, stack => (advance target? stack sent.1 sent.2).bind (run rest)

theorem run_append (first second : List (Origin × Command)) (stack : List Bracket) :
    run target? (first ++ second) stack
      = (run target? first stack).bind (run target? second) := by
  induction first generalizing stack with
  | nil => rfl
  | cons sent rest ih =>
      rw [List.cons_append, run, run, Option.bind_assoc]
      refine congrArg (Option.bind _) ?_
      funext next
      exact ih next

/-- A stream in two parts, from the brackets in between. -/
theorem run_append_of_eq {first second : List (Origin × Command)}
    {stack middle last : List Bracket} (hfirst : run target? first stack = some middle)
    (hsecond : run target? second middle = some last) :
    run target? (first ++ second) stack = some last := by
  rw [run_append, hfirst]
  exact hsecond

/-- At most one render pass is open. -/
def SinglePass : List Bracket → Prop
  | [] => True
  | .label :: rest => SinglePass rest
  | .renderPass _ :: rest => Bracket.openPass? rest = none

theorem singlePass_of_none (stack : List Bracket) (h : Bracket.openPass? stack = none) :
    SinglePass stack := by
  induction stack with
  | nil => trivial
  | cons bracket rest ih =>
      cases bracket with
      | label => exact ih h
      | renderPass begun => exact absurd h (Option.some_ne_none begun)

end Protocol

/-- A begin or an end of a render pass. -/
inductive PassEdge where
  | begins
  | ends
  deriving DecidableEq, Repr

namespace PassEdge

/-- The edge that a command is, if it is one. -/
def of? (command : Command) : Option PassEdge :=
  match command.role with
  | .opensPass _ _ => some begins
  | .closesPass => some ends
  | _ => none

/-- Edges that alternate, starting with a begin. -/
def alternating (count : Nat) : List PassEdge := (List.replicate count [begins, ends]).flatten

/-- The edge that leads into the render pass that is open, if one is. -/
def into (stack : List Bracket) : List PassEdge :=
  if (Bracket.openPass? stack).isSome then [begins] else []

end PassEdge

/-- The begins and ends of render passes among some commands. -/
def passEdges (commands : List Command) : List PassEdge := commands.filterMap PassEdge.of?

theorem PassEdge.alternating_add (m n : Nat) :
    alternating (m + n) = alternating m ++ alternating n := by
  unfold alternating
  rw [← List.replicate_append_replicate, List.flatten_append]

theorem passEdges_cons (command : Command) (rest : List Command) :
    passEdges (command :: rest) = (PassEdge.of? command).toList ++ passEdges rest := by
  unfold passEdges
  rw [List.filterMap_cons]
  cases PassEdge.of? command with
  | none => rfl
  | some edge => rfl

namespace Protocol

variable (target? : Surface → Option TargetBinding)

/-- One command keeps the brackets as they are, or opens or closes a label,
    or it is an edge that fits. The cases are the roles of the command. -/
theorem singlePass_advance {stack next : List Bracket} {origin : Origin} {command : Command}
    (hsingle : SinglePass stack) (h : advance target? stack origin command = some next) :
    SinglePass next
      ∧ ∃ count, PassEdge.into stack ++ (PassEdge.of? command).toList
        = PassEdge.alternating count ++ PassEdge.into next := by
  unfold advance at h
  unfold PassEdge.of?
  cases hrole : command.role with
  | framing =>
      rw [hrole] at h
      exact absurd h.symm (Option.some_ne_none next)
  | opensLabel =>
      rw [hrole] at h
      rcases Option.some.inj h with rfl
      exact ⟨hsingle, 0, List.append_nil _⟩
  | closesLabel =>
      rw [hrole] at h
      match stack, h with
      | .label :: rest, h =>
          rcases Option.some.inj h with rfl
          exact ⟨hsingle, 0, List.append_nil _⟩
  | opensPass renderPass framebuffer =>
      rw [hrole] at h
      cases hopen : Bracket.openPass? stack with
      | some begun =>
          simp only [hopen, reduceCtorEq] at h
      | none =>
          cases hcontext : origin.context? with
          | none => simp only [hopen, hcontext, reduceCtorEq] at h
          | some context =>
              -- The begin is an edge into what is open now.
              simp only [hopen, hcontext, Option.some.injEq] at h
              subst h
              refine ⟨hopen, 0, ?_⟩
              unfold PassEdge.into
              rw [hopen]
              rfl
  | closesPass =>
      rw [hrole] at h
      -- Only the innermost bracket can be closed, and no other render pass is
      -- open below it.
      match stack, h, hsingle with
      | .renderPass begun :: rest, h, hsingle =>
          rcases Option.some.inj h with rfl
          refine ⟨singlePass_of_none rest hsingle, 1, ?_⟩
          have hrest : Bracket.openPass? rest = none := hsingle
          unfold PassEdge.into
          rw [hrest]
          rfl
  | outside =>
      rw [hrole] at h
      simp only [Option.ite_none_right_eq_some, Option.some.injEq] at h
      rcases h with ⟨_, rfl⟩
      exact ⟨hsingle, 0, List.append_nil _⟩
  | inside =>
      rw [hrole] at h
      cases hopen : Bracket.openPass? stack with
      | none => simp only [hopen, reduceCtorEq] at h
      | some begun =>
          simp only [hopen, Option.ite_none_right_eq_some, Option.some.injEq] at h
          rcases h with ⟨_, rfl⟩
          exact ⟨hsingle, 0, List.append_nil _⟩
  | anywhere =>
      rw [hrole] at h
      rcases Option.some.inj h with rfl
      exact ⟨hsingle, 0, List.append_nil _⟩

/-- What an allowed command finds open. -/
theorem openPass_of_advance {stack next : List Bracket} {origin : Origin} {command : Command}
    (h : advance target? stack origin command = some next) :
    (command.role = .outside → Bracket.openPass? stack = none)
      ∧ (command.role = .inside → ∃ begun, Bracket.openPass? stack = some begun
        ∧ origin.drawsIn begun.context = true ∧ begun.isBound target? = true) := by
  unfold advance at h
  constructor
  · intro hrole
    rw [hrole] at h
    simp only [Option.ite_none_right_eq_some, Option.isNone_iff_eq_none] at h
    exact h.1
  · intro hrole
    rw [hrole] at h
    cases hopen : Bracket.openPass? stack with
    | none => simp only [hopen, reduceCtorEq] at h
    | some begun =>
        simp only [hopen, Option.ite_none_right_eq_some, Bool.and_eq_true] at h
        exact ⟨begun, rfl, h.1⟩

/-- What a command anywhere in an allowed stream finds open. -/
theorem openPass_of_run {stream front back : List (Origin × Command)} {sent : Origin × Command}
    {stack last : List Bracket} (h : run target? stream stack = some last)
    (hsplit : stream = front ++ sent :: back) :
    ∃ middle, run target? front stack = some middle
      ∧ (sent.2.role = .outside → Bracket.openPass? middle = none)
      ∧ (sent.2.role = .inside → ∃ begun, Bracket.openPass? middle = some begun
        ∧ sent.1.drawsIn begun.context = true ∧ begun.isBound target? = true) := by
  rw [hsplit, run_append] at h
  rcases Option.bind_eq_some_iff.mp h with ⟨middle, hfront, hrest⟩
  rw [run] at hrest
  rcases Option.bind_eq_some_iff.mp hrest with ⟨next, hnext, _⟩
  exact ⟨middle, hfront, openPass_of_advance target? hnext⟩

/-- Begins and ends of render passes alternate. The induction is on the
    stream and carries the begin of the render pass that is open. -/
theorem passEdges_of_run {stream : List (Origin × Command)} {stack last : List Bracket}
    (hsingle : SinglePass stack) (h : run target? stream stack = some last) :
    ∃ count, PassEdge.into stack ++ passEdges (stream.map Prod.snd)
      = PassEdge.alternating count ++ PassEdge.into last := by
  induction stream generalizing stack with
  | nil =>
      rcases Option.some.inj h with rfl
      exact ⟨0, List.append_nil _⟩
  | cons sent rest ih =>
      rw [run] at h
      rcases Option.bind_eq_some_iff.mp h with ⟨next, hnext, hrest⟩
      rcases singlePass_advance target? hsingle hnext with ⟨hkeeps, first, hfirst⟩
      rcases ih hkeeps hrest with ⟨later, hlater⟩
      refine ⟨first + later, ?_⟩
      rw [List.map_cons, passEdges_cons, ← List.append_assoc, hfirst, List.append_assoc, hlater,
        PassEdge.alternating_add, List.append_assoc]

/-- Bindings and draws in a render pass that may be drawn in leave the
    brackets alone. -/
theorem run_of_drawing {stack : List Bracket} {begun : Begun} {origin : Origin}
    (hopen : Bracket.openPass? stack = some begun)
    (hdraws : origin.drawsIn begun.context = true) (hbound : begun.isBound target? = true)
    (commands : List Command)
    (h : ∀ command ∈ commands, command.role = .inside ∨ command.role = .anywhere) :
    run target? (origin.sends commands) stack = some stack := by
  induction commands with
  | nil => rfl
  | cons command rest ih =>
      rw [List.forall_mem_cons] at h
      have hstep : advance target? stack origin command = some stack := by
        unfold advance
        rcases h.1 with hrole | hrole
        · rw [hrole]
          simp only [hopen, hdraws, hbound, Bool.and_self, if_true]
        · rw [hrole]
      change (advance target? stack origin command).bind _ = _
      rw [hstep]
      exact ih h.2

end Protocol

theorem Gpu.Command.role_of_draws (command : Command) (h : command.draws = true) :
    command.role = .inside ∨ command.role = .anywhere := by
  cases command <;> first
    | exact Or.inl rfl
    | exact Or.inr rfl
    | exact absurd h Bool.false_ne_true

end FrameGraph
