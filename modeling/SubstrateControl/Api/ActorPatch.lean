import Mathlib.Logic.Function.Basic
import SubstrateControl.Api.ActorMessages
import SubstrateControl.Api.Actors
import SubstrateControl.Api.Reads

/-!
# Patching the selector of an actor

`PATCH /api/actors/{atespace}/{name}` (`handleUpdateActor`), with a control plane that holds the
actors, and the GET of the actor that follows.

* `ControlPlane` — it replaces the selector of an actor by the one of the request; nil clears it.
* `patch_cases` — what a PATCH does: the selector of the actor is replaced, or nothing changes.
* `patch_replaces_selector` — a selector in the body is what is shown then; a body that is silent
  about it clears the selector, as nil does.
-/

set_option autoImplicit false

namespace Api

open Go

variable {Atespace Worker : Type}

/-! ## The control plane -/

/-- The actors the control plane holds. -/
abbrev Actors := ActorRef → Option (Pb.Actor Selector)

/-- What the control plane makes of an actor whose selector is updated, unless it refuses: the
selector is replaced by the one of the request, and nil clears it. -/
structure ControlPlane where
  updated : ActorRef → Pb.Actor Selector → Option Selector → Except GRPCError (Pb.Actor Selector)
  replaced : ∀ {a : ActorRef} {actor actor' : Pb.Actor Selector} {s : Option Selector},
    updated a actor s = .ok actor' → actor'.workerSelector = s
  notFound : ActorRef → GRPCError

namespace ControlPlane

variable (cp : ControlPlane)

/-- `GetActor`. -/
def getActor (held : Actors) (a : ActorRef) : Except GRPCError (Pb.Actor Selector) :=
  match held a with
  | none => .error (cp.notFound a)
  | some actor => .ok actor

/-- `UpdateActor`, which returns the stored actor. -/
def updateActor (held : Actors) (a : ActorRef) (s : Option Selector) :
    Except GRPCError (Pb.Actor Selector) :=
  match held a with
  | none => .error (cp.notFound a)
  | some actor => cp.updated a actor s

/-- The actors held after a call of `UpdateActor`; of the other calls none is made here. -/
def after (held : Actors) : Call → Actors
  | .updateActor a s =>
    match cp.updateActor held a s with
    | .error _ => held
    | .ok actor => Function.update held a (some actor)
  | _ => held

/-- The clients of a server, connected to the control plane. -/
def connect (r : Reader Atespace (Pb.Actor Pb.Selector) Worker) (held : Actors) :
    Reader Atespace (Pb.Actor Pb.Selector) Worker :=
  { r with
    updateActor := fun a s => (cp.updateActor held a s).map Pb.Actor.unmarshal
    getActor := fun a => (cp.getActor held a).map Pb.Actor.unmarshal }

end ControlPlane

/-! ## A PATCH and the GET after it -/

/-- A console: its clients but for the control plane, and what it uses of other packages. -/
structure ActorConsole (Atespace Worker : Type) where
  reader : Reader Atespace (Pb.Actor Pb.Selector) Worker
  plane : ControlPlane
  rfc3339 : Pb.Timestamp → String
  /-- The text of the decoder's error. -/
  explain : List UInt8 → String

namespace ActorConsole

variable (c : ActorConsole Atespace Worker)

/-- What is done for a PATCH of an actor. -/
def patch (held : Actors) (a : ActorRef) (b : List UInt8) :
    Trace Call (Body Atespace (Pb.Actor Pb.Selector)) :=
  (handleUpdateActor (c.plane.connect c.reader held).toServer a
    (updateActorRequestBody c.explain b)).trace

/-- The PATCH is answered with the actor. -/
def Accepted (held : Actors) (a : ActorRef) (b : List UInt8) : Prop :=
  ∃ actor, .ok (.wrapped actor) ∈ (c.patch held a b).responses

/-- The actors held after a PATCH. -/
def patched (held : Actors) (a : ActorRef) (b : List UInt8) : Actors :=
  (c.patch held a b).calls.foldl (fun held made => c.plane.after held made.call) held

/-- The selector a GET of an actor shows, if it shows one; none where it is answered otherwise. -/
def shownSelector (held : Actors) (a : ActorRef) : Option (Option SelectorJSON) :=
  match (handleGetActor (c.plane.connect c.reader held) a).trace.responses with
  | [.ok (.actor actor)] => some (actorToJSON c.rfc3339 actor).workerSelector
  | _ => none

end ActorConsole

/-- The selector of an actor that is held. -/
def selectorOf (held : Actors) (a : ActorRef) : Option (Option Selector) :=
  (held a).map (·.workerSelector)

/-! ## What an accepted PATCH does -/

section

variable {c : ActorConsole Atespace Worker} {held : Actors} {a : ActorRef}
  {b : List UInt8}

theorem ControlPlane.updateActor_ok {cp : ControlPlane} {s : Option Selector}
    {actor : Pb.Actor Selector} (h : cp.updateActor held a s = .ok actor) :
    ∃ before, held a = some before ∧ actor.workerSelector = s := by
  unfold ControlPlane.updateActor at h
  cases hheld : held a with
  | none =>
    rw [hheld] at h
    cases h
  | some before =>
    rw [hheld] at h
    exact ⟨before, rfl, cp.replaced h⟩

theorem ControlPlane.after_ok {cp : ControlPlane} {s : Option Selector} {actor : Pb.Actor Selector}
    (h : cp.updateActor held a s = .ok actor) :
    cp.after held (.updateActor a s) = Function.update held a (some actor) := by
  simp only [ControlPlane.after, h]

theorem ControlPlane.after_error {cp : ControlPlane} {s : Option Selector} {e : GRPCError}
    (h : cp.updateActor held a s = .error e) : cp.after held (.updateActor a s) = held := by
  simp only [ControlPlane.after, h]

theorem patch_unread (h : requested b = none) :
    c.patch held a b = ⟨[], [.error 400 ("invalid JSON body: " ++ c.explain b)]⟩ := by
  unfold ActorConsole.patch handleUpdateActor
  rw [decodeBody_updateActor, h]
  rfl

theorem patch_refused {req : UpdateActorRequestJSON} {e : GRPCError} (hreq : requested b = some req)
    (h : c.plane.updateActor held a (sentSelector req.workerSelector) = .error e) :
    ∃ status message, c.patch held a b =
      ⟨[⟨.updateActor a (sentSelector req.workerSelector), false⟩], [.error status message]⟩ := by
  obtain ⟨status, message, -, hwrite⟩ := writeGRPCError_writesError e
  have hupdate : (c.plane.connect c.reader held).updateActor a (sentSelector req.workerSelector) =
      .error e := congrArg (Except.map Pb.Actor.unmarshal) h
  refine ⟨status, message, ?_⟩
  unfold ActorConsole.patch handleUpdateActor
  rw [decodeBody_updateActor, hreq]
  show HandlerM.trace (call _ ((c.plane.connect c.reader held).updateActor a _) >>= _) = _
  rw [hupdate]
  show HandlerM.trace (call _ (Except.error e) >>= fun _ => writeGRPCError e) = _
  rw [hwrite]
  rfl

theorem patch_stored {req : UpdateActorRequestJSON} {actor : Pb.Actor Selector}
    (hreq : requested b = some req)
    (h : c.plane.updateActor held a (sentSelector req.workerSelector) = .ok actor) :
    c.patch held a b = ⟨[⟨.updateActor a (sentSelector req.workerSelector), true⟩],
      [.ok (.wrapped actor.unmarshal)]⟩ := by
  have hupdate : (c.plane.connect c.reader held).updateActor a (sentSelector req.workerSelector) =
      .ok actor.unmarshal := congrArg (Except.map Pb.Actor.unmarshal) h
  unfold ActorConsole.patch handleUpdateActor
  rw [decodeBody_updateActor, hreq]
  show HandlerM.trace (call _ ((c.plane.connect c.reader held).updateActor a _) >>= _) = _
  rw [hupdate]
  rfl

theorem accepted_of_stored {req : UpdateActorRequestJSON} {actor : Pb.Actor Selector}
    (hreq : requested b = some req)
    (h : c.plane.updateActor held a (sentSelector req.workerSelector) = .ok actor) :
    c.Accepted held a b := by
  refine ⟨actor.unmarshal, ?_⟩
  rw [patch_stored hreq h]
  exact List.mem_singleton_self _

/-- **What a PATCH does**: either the selector of the actor is replaced by the one the body asks for
and every other actor stays as it is, or an error is written and nothing changes. -/
theorem patch_cases (c : ActorConsole Atespace Worker) (held : Actors) (a : ActorRef)
    (b : List UInt8) :
    (∃ req before actor, requested b = some req ∧ held a = some before ∧
      actor.workerSelector = sentSelector req.workerSelector ∧
      (c.patch held a b).responses = [.ok (.wrapped actor.unmarshal)] ∧
      c.patched held a b = Function.update held a (some actor)) ∨
    (∃ status message, (c.patch held a b).responses = [.error status message] ∧
      c.patched held a b = held) := by
  unfold ActorConsole.patched
  cases hreq : requested b with
  | none =>
    right
    rw [patch_unread hreq]
    exact ⟨400, _, rfl, rfl⟩
  | some req =>
    cases hupdate : c.plane.updateActor held a (sentSelector req.workerSelector) with
    | error e =>
      right
      obtain ⟨status, message, htrace⟩ := patch_refused hreq hupdate
      rw [htrace]
      exact ⟨status, message, rfl, ControlPlane.after_error hupdate⟩
    | ok actor =>
      left
      obtain ⟨before, hbefore, hselector⟩ := ControlPlane.updateActor_ok hupdate
      rw [patch_stored hreq hupdate]
      exact ⟨req, before, actor, rfl, hbefore, hselector, rfl, ControlPlane.after_ok hupdate⟩

theorem patched_accepted (h : c.Accepted held a b) :
    ∃ req before actor, requested b = some req ∧ held a = some before ∧
      actor.workerSelector = sentSelector req.workerSelector ∧
      c.patched held a b = Function.update held a (some actor) := by
  obtain ⟨v, hv⟩ := h
  obtain ⟨req, before, actor, hreq, hheld, hselector, -, hpatched⟩ | ⟨status, message, herror, -⟩ :=
    patch_cases c held a b
  · exact ⟨req, before, actor, hreq, hheld, hselector, hpatched⟩
  · rw [herror] at hv
    simp at hv

theorem selectorOf_patched {req : UpdateActorRequestJSON} (h : c.Accepted held a b)
    (hreq : requested b = some req) :
    selectorOf (c.patched held a b) a = some (sentSelector req.workerSelector) := by
  obtain ⟨sent, before, actor, hsent, -, hselector, hpatched⟩ := patched_accepted h
  rw [hreq, Option.some.injEq] at hsent
  rw [selectorOf, hpatched, Function.update_self, Option.map_some, hselector, hsent]

theorem handleGetActor_ok {Actor : Type} {s : Reader Atespace Actor Worker}
    {actor : Actor} (h : s.getActor a = .ok actor) :
    (handleGetActor s a).trace.responses = [.ok (.actor actor)] := by
  unfold handleGetActor
  rw [h]
  rfl

theorem handleGetActor_error {Actor : Type} {s : Reader Atespace Actor Worker}
    {e : GRPCError} (h : s.getActor a = .error e) :
    ∃ status message, (handleGetActor s a).trace.responses = [.error status message] := by
  obtain ⟨status, message, -, hwrite⟩ := writeGRPCError_writesError e
  refine ⟨status, message, ?_⟩
  unfold handleGetActor
  rw [h]
  show (HandlerM.trace (call _ (Except.error e) >>= fun _ => writeGRPCError e)).responses = _
  rw [hwrite]
  rfl

/-- **A GET shows the selector that is held.** -/
theorem ActorConsole.shownSelector_eq (c : ActorConsole Atespace Worker)
    (held : Actors) (a : ActorRef) :
    c.shownSelector held a =
      (selectorOf held a).map (Option.map fun s => ⟨some s.matchLabels⟩) := by
  unfold ActorConsole.shownSelector selectorOf
  cases hheld : held a with
  | none =>
    have hget : (c.plane.connect c.reader held).getActor a = .error (c.plane.notFound a) := by
      show (c.plane.getActor held a).map Pb.Actor.unmarshal = _
      unfold ControlPlane.getActor
      rw [hheld]
      rfl
    obtain ⟨status, message, hwritten⟩ := handleGetActor_error hget
    rw [hwritten]
    rfl
  | some actor =>
    have hget : (c.plane.connect c.reader held).getActor a = .ok actor.unmarshal := by
      show (c.plane.getActor held a).map Pb.Actor.unmarshal = _
      unfold ControlPlane.getActor
      rw [hheld]
      rfl
    rw [handleGetActor_ok hget]
    exact congrArg some (actorToJSON_workerSelector c.rfc3339 actor)

theorem shownSelector_patched {s : SelectorJSON} (h : c.Accepted held a b)
    (hsaid : said b = some s) :
    c.shownSelector (c.patched held a b) a = some (some ⟨some (s.matchLabels.getD [])⟩) := by
  obtain ⟨req, hreq, hselector⟩ := Option.bind_eq_some_iff.mp hsaid
  rw [c.shownSelector_eq, selectorOf_patched h hreq, hselector, sentSelector_some]
  rfl

theorem selectorOf_patched_silent (h : c.Accepted held a b) (hsilent : Silent b) :
    selectorOf (c.patched held a b) a = some none := by
  obtain ⟨req, before, actor, hreq, -, -, -⟩ := patched_accepted h
  rw [selectorOf_patched h hreq, requested_silent hsilent hreq]
  rfl

/-- **A PATCH replaces the selector**: a GET then shows the labels of the one the body carries.  For
a body that is silent about it the control plane is sent nil, so that the selector is what it was
exactly when there was none. -/
theorem patch_replaces_selector (c : ActorConsole Atespace Worker) (held : Actors)
    (a : ActorRef) (b : List UInt8) (h : c.Accepted held a b) :
    (∀ s, said b = some s →
      c.shownSelector (c.patched held a b) a = some (some ⟨some (s.matchLabels.getD [])⟩)) ∧
    (∀ labels, Carries b labels →
      c.shownSelector (c.patched held a b) a = some (some ⟨some labels⟩)) ∧
    (Silent b → selectorOf (c.patched held a b) a = some none ∧
      (selectorOf (c.patched held a b) a = selectorOf held a ↔ selectorOf held a = some none)) := by
  refine ⟨fun s hsaid => shownSelector_patched h hsaid, fun labels hcarries => ?_,
    fun hsilent => ?_⟩
  · obtain ⟨s, hsaid, hlabels⟩ := said_of_carries hcarries
    rw [shownSelector_patched h hsaid, hlabels]
  · have hnone := selectorOf_patched_silent h hsilent
    refine ⟨hnone, ?_⟩
    rw [hnone]
    exact eq_comm

end

/-! ## An actor that is bound to some workers -/

/-- A reader none of whose clients gets through. -/
def idleReader : Reader Unit (Pb.Actor Pb.Selector) Unit :=
  let down : GRPCError := .status ⟨.unavailable, "down"⟩
  let unreachable : Gateway.Err := .classified ⟨.unreachable, "down"⟩
  { createAtespace := idleServer.createAtespace
    deleteAtespace := idleServer.deleteAtespace
    createActor := fun _ => .error down
    deleteActor := fun _ => .error down
    suspendActor := fun _ => .error down
    pauseActor := fun _ => .error down
    resumeActor := fun _ _ => .error down
    updateActor := fun _ _ => .error down
    forward := idleServer.forward
    kube := idleServer.kube
    generateKey := idleServer.generateKey
    deleteKey := idleServer.deleteKey
    listModels := idleServer.listModels
    registerModel := idleServer.registerModel
    deleteModel := idleServer.deleteModel
    ping := .error "down"
    listAtespaces := .error down
    listActors := fun _ => .error down
    getActor := fun _ => .error down
    listWorkers := .error down
    assigned := fun _ => false
    statusToString := fun actor => Api.statusToString actor.status
    listActorTemplates := .error ⟨"down", false, false, false, false⟩
    listWorkerPools := .error ⟨"down", false, false, false, false⟩
    listNodeMetrics := .error ⟨"down", false, false, false, false⟩
    listNodes := .error ⟨"down", false, false, false, false⟩
    listPodMetrics := .error ⟨"down", false, false, false, false⟩
    resource := exactResource
    mapOrder := .inserted
    baseURL := ""
    info := .error unreachable
    listKeys := .error unreachable
    globalSpend := .error unreachable
    spendLogs := fun _ => .error unreachable
    globalSpendKeys := .error unreachable
    globalSpendModels := .error unreachable }

/-- A console whose control plane refuses no update of an actor it holds. -/
def actorConsole : ActorConsole Unit Unit :=
  { reader := idleReader
    plane :=
      { updated := fun _ actor s => .ok { actor with workerSelector := s }
        replaced := fun h => by
          cases h
          rfl
        notFound := fun _ => .status ⟨.notFound, "actor not found"⟩ }
    rfc3339 := fun _ => ""
    explain := fun _ => "unexpected EOF" }

/-- An actor for workers with a GPU alone. -/
def gpuActors : Actors := fun a =>
  if a = ⟨"default", "trainer"⟩ then some { workerSelector := some ⟨[("gpu", "a100")]⟩ } else none

/-- A body that asks for workers with a CPU. -/
def cpuBody : List UInt8 :=
  goString "\x7b\"workerSelector\": \x7b\"matchLabels\": \x7b\"cpu\": \"epyc\"\x7d\x7d\x7d"

theorem requested_cpuBody : requested cpuBody = some ⟨some ⟨some [("cpu", "epyc")]⟩⟩ := by
  decide +kernel

/-- After a PATCH with a selector a GET shows its labels. -/
theorem patch_replaces_selector_cpuBody :
    actorConsole.shownSelector (actorConsole.patched gpuActors ⟨"default", "trainer"⟩ cpuBody)
      ⟨"default", "trainer"⟩ = some (some ⟨some [("cpu", "epyc")]⟩) := by
  have hsaid : said cpuBody = some ⟨some [("cpu", "epyc")]⟩ := by
    rw [said, requested_cpuBody]
    rfl
  exact (patch_replaces_selector actorConsole gpuActors ⟨"default", "trainer"⟩ cpuBody
    (accepted_of_stored requested_cpuBody rfl)).1 _ hsaid

/-- A PATCH that does not mention the selector removes it. -/
theorem patch_replaces_selector_counterexample :
    actorConsole.Accepted gpuActors ⟨"default", "trainer"⟩ (goString "\x7b\x7d") ∧
      Silent (goString "\x7b\x7d") ∧
      selectorOf (actorConsole.patched gpuActors ⟨"default", "trainer"⟩ (goString "\x7b\x7d"))
        ⟨"default", "trainer"⟩ ≠ selectorOf gpuActors ⟨"default", "trainer"⟩ := by
  have hrequested : requested (goString "\x7b\x7d") = some {} := by decide +kernel
  have haccepted : actorConsole.Accepted gpuActors ⟨"default", "trainer"⟩ (goString "\x7b\x7d") :=
    accepted_of_stored hrequested rfl
  have hsilent : Silent (goString "\x7b\x7d") :=
    .inr ⟨.obj [], rfl, fun ⟨kv, hkv, _⟩ => List.not_mem_nil hkv⟩
  refine ⟨haccepted, hsilent, ?_⟩
  rw [selectorOf_patched_silent haccepted hsilent]
  decide

end Api
