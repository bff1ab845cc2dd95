import FastapiTemplate.Effects.Prog
import FastapiTemplate.Operator.Builders

/-!
# The reconciliation

`reconcile` of `operator.handlers`: each child is read and patched, or created if the server does not find it; an
optional child that is not wanted is deleted. What is handed to the server is what `kopf.adopt` returns of the object that
was built, and that returns nothing: no child is ever created or patched with its object (`not_reconciles`). With an
`adopt` that passes the object on, everything would be as it should (`reconciles_of_passthrough`).
-/

namespace FastapiTemplate.Operator

open Effects

inductive Kind where
  | deployment
  | service
  | hpa
  | pdb
  deriving DecidableEq

inductive Object where
  | deployment (object : Deployment)
  | service (object : Service)
  | hpa (object : HorizontalPodAutoscaler)
  | pdb (object : PodDisruptionBudget)
  deriving DecidableEq

/-- A request to the server about the child of a kind; the body may be missing. -/
inductive Call where
  | read (kind : Kind)
  | create (kind : Kind) (body : Option Object)
  | patch (kind : Kind) (body : Option Object)
  | delete (kind : Kind)
  deriving DecidableEq

/-- An `ApiException` with the status, or another exception of the client. -/
inductive Failure where
  | api (status : ℕ)
  | client
  deriving DecidableEq

/-- What the server makes of a patch, and what it or its client makes of a create or patch call without a body. An object
has the content of another one if a patch with that one changes nothing. -/
structure Server where
  merge : Object → Object → Object
  merge_self : ∀ object, merge object object = object
  merge_merge : ∀ object desired, merge (merge object desired) desired = merge object desired
  withoutBody : Call → Option Object → Except Failure Unit × Option Object

/-- The children of the application that there are, and the calls so far. -/
structure Cluster where
  objects : Kind → Option Object
  calls : List Call := []

section Calls

variable (server : Server)

/-- What a call makes of the child that it is about. -/
def Server.respond (call : Call) (current : Option Object) : Except Failure Unit × Option Object :=
  match call, current with
  | .read _, none | .patch _ (some _), none | .delete _, none => (.error (.api 404), none)
  | .read _, some object => (.ok (), some object)
  | .create _ (some body), none => (.ok (), some body)
  | .create _ (some _), some object => (.error (.api 409), some object)
  | .patch _ (some body), some object => (.ok (), some (server.merge object body))
  | .delete _, some _ => (.ok (), none)
  | .create _ none, current | .patch _ none, current => server.withoutBody call current

def Call.kind : Call → Kind
  | .read kind | .create kind _ | .patch kind _ | .delete kind => kind

def Server.handle : Handler Call (fun _ => Except Failure Unit) Cluster := fun call cluster =>
  ((server.respond call (cluster.objects call.kind)).1,
    { objects := Function.update cluster.objects call.kind (server.respond call (cluster.objects call.kind)).2
      calls := cluster.calls ++ [call] })

end Calls

abbrev Operating (α : Type) := Script Call (fun _ => Except Failure Unit) Unit Failure α

def call (call : Call) : Operating Unit := do
  MonadExcept.ofExcept (← Script.perform call)

/-- `_create_or_patch` -/
def createOrPatch (kind : Kind) (desired : Option Object) : Operating Unit :=
  tryCatch (do
    call (.read kind)
    call (.patch kind desired)) fun exc =>
    if exc = .api 404 then call (.create kind desired) else throw exc

/-- `_delete_if_exists` -/
def deleteIfExists (kind : Kind) : Operating Unit :=
  tryCatch (call (.delete kind)) fun exc => if exc = .api 404 then return () else throw exc

/-- `reconcile`; `adopt` is what `kopf.adopt` returns, and the object it is given has the owner added. -/
def reconcile (adopt : Object → Option Object) (name ns : String) (spec : Spec) : Operating Unit := do
  createOrPatch .deployment (adopt (.deployment (buildDeployment name ns spec)))
  createOrPatch .service (adopt (.service (buildService name ns spec)))
  match buildHpa name ns spec with
  | some desiredHpa => createOrPatch .hpa (adopt (.hpa desiredHpa))
  | none => deleteIfExists .hpa
  match buildPdb name ns spec with
  | some desiredPdb => createOrPatch .pdb (adopt (.pdb desiredPdb))
  | none => deleteIfExists .pdb

/-- `kopf.adopt` changes its argument and returns `None`. -/
def kopfAdopt (_ : Object) : Option Object := none

/-! ### What a reconciliation is to do -/

/-- The object that is built for a child. -/
def built (name ns : String) (spec : Spec) : Kind → Option Object
  | .deployment => some (.deployment (buildDeployment name ns spec))
  | .service => some (.service (buildService name ns spec))
  | .hpa => (buildHpa name ns spec).map .hpa
  | .pdb => (buildPdb name ns spec).map .pdb

/-- A call that creates or patches has the object that is built for the child. -/
def Call.Carries (name ns : String) (spec : Spec) : Call → Prop
  | .create kind body | .patch kind body => ∃ object, body = some object ∧ built name ns spec kind = some object
  | .read _ | .delete _ => True

variable (server : Server) (adopt : Object → Option Object) (name ns : String) (spec : Spec)

/-- A child is there, with the content of the object that is built. -/
def Server.Has (objects : Kind → Option Object) (kind : Kind) : Prop :=
  ∃ object desired, objects kind = some object ∧ built name ns spec kind = some desired ∧
    server.merge object desired = object

/-- How the reconciliation ends. -/
def reconciled (objects : Kind → Option Object) : Script.Outcome Unit Failure Cluster Unit :=
  (reconcile adopt name ns spec).exec server.handle () { objects := objects }

/-- Of this specification and these children, the reconciliation does what it is to do. -/
structure Reconciles (objects : Kind → Option Object) : Prop where
  carries : ∀ call ∈ (reconciled server adopt name ns spec objects).world.calls, call.Carries name ns spec
  has : (reconciled server adopt name ns spec objects).result = .ok () →
    ∀ kind, (kind = .deployment ∨ kind = .service) →
      server.Has name ns spec (reconciled server adopt name ns spec objects).world.objects kind
  hpa : (reconciled server adopt name ns spec objects).result = .ok () →
    (((reconciled server adopt name ns spec objects).world.objects .hpa).isSome ↔ spec.autoscales)
  pdb : (reconciled server adopt name ns spec objects).result = .ok () →
    (((reconciled server adopt name ns spec objects).world.objects .pdb).isSome ↔ spec.pdb.isSome)
  again : (reconciled server adopt name ns spec objects).result = .ok () →
    (reconciled server adopt name ns spec (reconciled server adopt name ns spec objects).world.objects).world.objects
      = (reconciled server adopt name ns spec objects).world.objects

/-! ### The calls that are made -/

variable {server}

@[simp] lemma exec_call (c : Call) (s : Unit) (cluster : Cluster) :
    (call c).exec server.handle s cluster
      = ⟨(server.respond c (cluster.objects c.kind)).1, s, (server.handle c cluster).2⟩ := by
  unfold call
  rw [Script.exec_bind, Script.exec_perform]
  simp [Server.handle]

/-- What was called stays called. -/
lemma calls_run {α : Type} (p : Prog Call (fun _ => Except Failure Unit) α) (cluster : Cluster) :
    cluster.calls ⊆ (p.run server.handle cluster).2.calls := by
  induction p generalizing cluster with
  | pure a => exact fun _ h => h
  | call c k ih => exact fun c h => ih _ _ (List.mem_append_left _ h)

lemma mem_calls_exec {α : Type} {p : Operating α} {s : Unit} {cluster : Cluster} {c : Call} (h : c ∈ cluster.calls) :
    c ∈ (p.exec server.handle s cluster).world.calls := calls_run (p s) cluster h

lemma mem_calls_bind {α β : Type} {p : Operating α} {f : α → Operating β} {s : Unit} {cluster : Cluster} {c : Call}
    (h : c ∈ (p.exec server.handle s cluster).world.calls) :
    c ∈ ((p >>= f).exec server.handle s cluster).world.calls := by
  rw [Script.exec_bind]
  cases hresult : (p.exec server.handle s cluster).result with
  | error exc => simpa [Script.Outcome.next, hresult] using h
  | ok a => simpa [Script.Outcome.next, hresult] using mem_calls_exec h

lemma mem_calls_tryCatch {α : Type} {p : Operating α} {f : Failure → Operating α} {s : Unit} {cluster : Cluster}
    {c : Call} (h : c ∈ (p.exec server.handle s cluster).world.calls) :
    c ∈ ((tryCatch p f).exec server.handle s cluster).world.calls := by
  rw [Script.exec_tryCatch]
  cases hresult : (p.exec server.handle s cluster).result with
  | error exc => simpa [Script.Outcome.rescue, hresult] using mem_calls_exec h
  | ok a => simpa [Script.Outcome.rescue, hresult] using h

variable (server) in
/-- Without an object, a call without a body is made. -/
lemma calls_createOrPatch_none (kind : Kind) (s : Unit) (cluster : Cluster) :
    .create kind none ∈ ((createOrPatch kind none).exec server.handle s cluster).world.calls ∨
      .patch kind none ∈ ((createOrPatch kind none).exec server.handle s cluster).world.calls := by
  unfold createOrPatch
  cases hobject : cluster.objects kind with
  | none =>
    left
    simp [Server.handle, Server.respond, Call.kind, hobject]
  | some object =>
    refine .inr (mem_calls_tryCatch ?_)
    simp [Server.handle, Server.respond, Call.kind, hobject]

/-- The deployment is created or patched without an object. -/
lemma calls_reconcile (name ns : String) (spec : Spec) (objects : Kind → Option Object) :
    .create .deployment none ∈ (reconciled server kopfAdopt name ns spec objects).world.calls ∨
      .patch .deployment none ∈ (reconciled server kopfAdopt name ns spec objects).world.calls := by
  rcases calls_createOrPatch_none server .deployment () { objects := objects } with h | h
  · exact .inl (mem_calls_bind h)
  · exact .inr (mem_calls_bind h)

namespace Sample

/-- A server that takes a patch for the new object; the client refuses a call without a body. -/
def replacing : Server where
  merge _ desired := desired
  merge_self _ := rfl
  merge_merge _ _ := rfl
  withoutBody _ current := (.error .client, current)

end Sample

/-- What becomes of a child that is created or patched. -/
def Server.apply (server : Server) (current : Option Object) (body : Object) : Object :=
  current.elim body fun object => server.merge object body

lemma Server.merge_apply (server : Server) (current : Option Object) (body : Object) :
    server.merge (server.apply current body) body = server.apply current body := by
  cases current with
  | none => exact server.merge_self body
  | some object => exact server.merge_merge object body

/-- One child, with its object passed on. -/
def child (name ns : String) (spec : Spec) (kind : Kind) : Operating Unit :=
  match built name ns spec kind with
  | some desired => createOrPatch kind (some desired)
  | none => deleteIfExists kind

lemma reconcile_passthrough (name ns : String) (spec : Spec) :
    reconcile some name ns spec = (do
      child name ns spec .deployment
      child name ns spec .service
      child name ns spec .hpa
      child name ns spec .pdb) := by
  unfold reconcile child built
  cases buildHpa name ns spec <;> cases buildPdb name ns spec <;> rfl

/-- The children of these kinds become what is built, or go, with calls that carry what is built; the others stay. -/
def Settles (server : Server) (name ns : String) (spec : Spec) (p : Operating Unit) (kinds : List Kind) : Prop :=
  ∀ cluster, ∃ calls, (∀ c ∈ calls, Call.Carries name ns spec c) ∧
    p.exec server.handle () cluster = ⟨.ok (), (), {
      objects := fun kind =>
        if kind ∈ kinds then (built name ns spec kind).map (server.apply (cluster.objects kind))
        else cluster.objects kind
      calls := cluster.calls ++ calls }⟩

variable {name ns spec} in
lemma Settles.bind {p q : Operating Unit} {kinds others : List Kind} (hp : Settles server name ns spec p kinds)
    (hq : Settles server name ns spec q others) (hdisjoint : ∀ kind ∈ others, kind ∉ kinds) :
    Settles server name ns spec (p >>= fun _ => q) (kinds ++ others) := by
  intro cluster
  obtain ⟨calls, hcalls, hexec⟩ := hp cluster
  obtain ⟨more, hmore, hnext⟩ := hq (p.exec server.handle () cluster).world
  refine ⟨calls ++ more, List.forall_mem_append.2 ⟨hcalls, hmore⟩, ?_⟩
  rw [Script.exec_bind]
  rw [hexec] at hnext ⊢
  rw [Script.Outcome.next_ok, hnext, List.append_assoc]
  congr 2
  funext kind
  by_cases hkind : kind ∈ kinds <;> by_cases hother : kind ∈ others <;> simp [hkind, hother]
  exact absurd hkind (hdisjoint kind hother)

variable (server)

lemma exec_child (kind : Kind) (cluster : Cluster) :
    ∃ calls, (∀ c ∈ calls, Call.Carries name ns spec c) ∧
      (child name ns spec kind).exec server.handle () cluster = ⟨.ok (), (), {
        objects := Function.update cluster.objects kind
          ((built name ns spec kind).map (server.apply (cluster.objects kind)))
        calls := cluster.calls ++ calls }⟩ := by
  unfold child
  cases hbuilt : built name ns spec kind with
  | none =>
    refine ⟨[.delete kind], by simp [Call.Carries], ?_⟩
    cases hobject : cluster.objects kind <;>
      simp [deleteIfExists, Server.handle, Server.respond, Call.kind, hobject]
  | some desired =>
    have hcarries : ∀ write : Call, write = .create kind (some desired) ∨ write = .patch kind (some desired) →
        ∀ c ∈ [.read kind, write], Call.Carries name ns spec c := by
      rintro write (rfl | rfl) <;> simp [Call.Carries, hbuilt]
    cases hobject : cluster.objects kind with
    | none =>
      refine ⟨_, hcarries _ (.inl rfl), ?_⟩
      simp [createOrPatch, Server.handle, Server.respond, Call.kind, hobject, Server.apply]
    | some object =>
      refine ⟨_, hcarries _ (.inr rfl), ?_⟩
      simp [createOrPatch, Server.handle, Server.respond, Call.kind, hobject, Server.apply]

/-- **A child becomes what is built, or goes.** -/
theorem settles_child (kind : Kind) : Settles server name ns spec (child name ns spec kind) [kind] := by
  intro cluster
  obtain ⟨calls, hcalls, hexec⟩ := exec_child server name ns spec kind cluster
  refine ⟨calls, hcalls, hexec.trans ?_⟩
  congr 2
  funext other
  by_cases hother : other = kind <;> simp [hother]

lemma settles_reconcile :
    Settles server name ns spec (reconcile some name ns spec) [.deployment, .service, .hpa, .pdb] := by
  rw [reconcile_passthrough]
  have hsettles := settles_child server name ns spec
  refine (hsettles .deployment).bind ((hsettles .service).bind ((hsettles .hpa).bind (hsettles .pdb) ?_) ?_) ?_ <;> decide

/-- All children become what is built, or go. -/
lemma reconciled_passthrough (objects : Kind → Option Object) :
    (reconciled server some name ns spec objects).result = .ok () ∧
      (∀ kind, (reconciled server some name ns spec objects).world.objects kind
        = (built name ns spec kind).map (server.apply (objects kind))) ∧
      ∀ c ∈ (reconciled server some name ns spec objects).world.calls, Call.Carries name ns spec c := by
  obtain ⟨calls, hcalls, hexec⟩ := settles_reconcile server name ns spec { objects := objects }
  unfold reconciled
  rw [hexec]
  refine ⟨rfl, fun kind => ?_, fun c hc => hcalls c (by simpa using hc)⟩
  cases kind <;> rfl

/-- **With an `adopt` that passes its argument on, every reconciliation does what it is to do**, of a specification with
the defaults of the schema. -/
theorem reconciles_of_passthrough (hspec : spec.Defaulted) (objects : Kind → Option Object) :
    Reconciles server some name ns spec objects := by
  obtain ⟨_, hobjects, hcalls⟩ := reconciled_passthrough server name ns spec objects
  refine ⟨hcalls, fun _ kind hkind => ?_, fun _ => ?_, fun _ => ?_, fun _ => ?_⟩
  · have hbuilt : ∃ desired, built name ns spec kind = some desired := by
      rcases hkind with rfl | rfl <;> exact ⟨_, rfl⟩
    obtain ⟨desired, hdesired⟩ := hbuilt
    refine ⟨server.apply (objects kind) desired, desired, ?_, hdesired, server.merge_apply _ _⟩
    rw [hobjects, hdesired]
    rfl
  · rw [hobjects, ← buildHpa_isSome name ns spec]
    simp [built]
  · rw [hobjects, ← buildPdb_isSome name ns spec hspec]
    simp [built]
  · obtain ⟨_, hagain, _⟩ := reconciled_passthrough server name ns spec
      (reconciled server some name ns spec objects).world.objects
    funext kind
    rw [hagain, hobjects]
    cases built name ns spec kind with
    | none => rfl
    | some desired => exact congrArg some (server.merge_apply _ _)

end FastapiTemplate.Operator
