import Mathlib.Data.Int.Notation
import Mathlib.Data.List.Basic

/-!
# The children of an application

The builders of `operator.handlers`: what the Deployment, the Service, the HPA and the PDB of a `FastAPIApp` are to be,
from its specification. An optional child is built if its section asks for it.
-/

namespace FastapiTemplate.Operator

/-! ### The specification -/

structure EnvVar where
  name : String
  value : String
  deriving DecidableEq

abbrev Quantities := List (String × String)

structure Resources where
  requests : Option Quantities := none
  limits : Option Quantities := none
  deriving DecidableEq

structure Autoscaling where
  enabled : Option Bool := none
  minReplicas : Option ℤ := none
  maxReplicas : Option ℤ := none
  targetCPUUtilizationPercentage : Option ℤ := none
  deriving DecidableEq

structure Pdb where
  minAvailable : Option ℤ := none
  deriving DecidableEq

/-- The `spec` of a `FastAPIApp`, with the fields of the schema; what is not given is `none`. -/
structure Spec where
  image : String
  replicas : Option ℤ := none
  port : Option ℤ := none
  env : Option (List EnvVar) := none
  resources : Option Resources := none
  autoscaling : Option Autoscaling := none
  pdb : Option Pdb := none
  deriving DecidableEq

/-! ### The objects -/

abbrev Labels := List (String × String)

structure Metadata where
  name : String
  namespace_ : String
  labels : Labels
  deriving DecidableEq

structure Probe where
  path : String
  port : ℤ
  initialDelaySeconds : ℤ
  periodSeconds : ℤ
  deriving DecidableEq

structure Container where
  name : String
  image : String
  containerPort : ℤ
  env : List EnvVar
  resources : Option Resources
  readinessProbe : Probe
  livenessProbe : Probe
  deriving DecidableEq

structure Deployment where
  metadata : Metadata
  replicas : ℤ
  selector : Labels
  templateLabels : Labels
  containers : List Container
  deriving DecidableEq

structure ServicePort where
  port : ℤ
  targetPort : ℤ
  deriving DecidableEq

structure Service where
  metadata : Metadata
  selector : Labels
  ports : List ServicePort
  type : String
  deriving DecidableEq

structure ScaleTargetRef where
  apiVersion : String
  kind : String
  name : String
  deriving DecidableEq

structure Metric where
  type : String
  resourceName : String
  targetType : String
  averageUtilization : ℤ
  deriving DecidableEq

structure HorizontalPodAutoscaler where
  metadata : Metadata
  minReplicas : ℤ
  maxReplicas : ℤ
  scaleTargetRef : ScaleTargetRef
  metrics : List Metric
  deriving DecidableEq

structure PodDisruptionBudget where
  metadata : Metadata
  minAvailable : ℤ
  selector : Labels
  deriving DecidableEq

/-! ### The builders -/

variable (name ns : String) (spec : Spec)

def appLabel : String := "app.kubernetes.io/managed-by"

def appValue : String := "fastapi-operator"

/-- `_labels` -/
def labels : Labels :=
  [("app", name), (appLabel, appValue), ("app.kubernetes.io/name", name), ("app.kubernetes.io/namespace", ns)]

def metadata : Metadata where
  name := name
  namespace_ := ns
  labels := labels name ns

/-- `_env_vars` -/
def envVars : List EnvVar := spec.env.getD []

/-- `_resources`: a section with nothing in it is none. -/
def resources : Option Resources := spec.resources.filter fun res => res.requests.isSome || res.limits.isSome

def buildDeployment : Deployment :=
  let port := spec.port.getD 8000
  { metadata := metadata name ns
    replicas := spec.replicas.getD 2
    selector := [("app", name)]
    templateLabels := labels name ns
    containers := [{
      name := "app"
      image := spec.image
      containerPort := port
      env := envVars spec
      resources := resources spec
      readinessProbe := { path := "/readyz", port := port, initialDelaySeconds := 5, periodSeconds := 5 }
      livenessProbe := { path := "/healthz", port := port, initialDelaySeconds := 10, periodSeconds := 10 } }] }

def buildService : Service :=
  let port := spec.port.getD 8000
  { metadata := metadata name ns
    selector := [("app", name)]
    ports := [{ port := port, targetPort := port }]
    type := "ClusterIP" }

/-- `build_hpa`, if autoscaling is enabled. -/
def buildHpa : Option HorizontalPodAutoscaler :=
  let scaling := spec.autoscaling.getD {}
  if scaling.enabled = some true then
    some {
      metadata := metadata name ns
      minReplicas := scaling.minReplicas.getD 2
      maxReplicas := scaling.maxReplicas.getD 10
      scaleTargetRef := { apiVersion := "apps/v1", kind := "Deployment", name := name }
      metrics := [{
        type := "Resource"
        resourceName := "cpu"
        targetType := "Utilization"
        averageUtilization := scaling.targetCPUUtilizationPercentage.getD 80 }] }
  else none

/-- `build_pdb`; a section with nothing in it is none. -/
def buildPdb : Option PodDisruptionBudget :=
  match spec.pdb with
  | none | some { minAvailable := none } => none
  | some { minAvailable := some minAvailable } =>
    some { metadata := metadata name ns, minAvailable := minAvailable, selector := [("app", name)] }

/-- Autoscaling is enabled. -/
def Spec.autoscales (spec : Spec) : Prop := ∃ scaling, spec.autoscaling = some scaling ∧ scaling.enabled = some true

lemma buildHpa_isSome : (buildHpa name ns spec).isSome ↔ spec.autoscales := by
  unfold buildHpa Spec.autoscales
  cases spec.autoscaling with
  | none => simp
  | some scaling => by_cases henabled : scaling.enabled = some true <;> simp [henabled]

/-- The server fills in the defaults of the schema, so that a section that is given is not empty. -/
def Spec.Defaulted (spec : Spec) : Prop := ∀ pdb, spec.pdb = some pdb → pdb.minAvailable.isSome

lemma buildPdb_isSome (h : spec.Defaulted) : (buildPdb name ns spec).isSome ↔ spec.pdb.isSome := by
  unfold buildPdb
  rcases hpdb : spec.pdb with _ | ⟨_ | minAvailable⟩
  · simp
  · exact absurd (h _ hpdb) (by simp)
  · simp

end FastapiTemplate.Operator
