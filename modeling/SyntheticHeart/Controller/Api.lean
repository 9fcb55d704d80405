import SyntheticHeart.Common.Models

/-!
# The `SyntheticTest` custom resource (`controller/api/v1`)

The controller reconciles `SyntheticTest` objects: their metadata (name, namespace and
labels), the spec a user writes, and the status the controller writes back. Listed pods
are seen through their name and namespace only.
-/

namespace SyntheticHeart

/-- The name and namespace of a Kubernetes object. -/
structure ObjectMeta where
  name : String
  «namespace» : String
  deriving DecidableEq, Repr

namespace V1

/-- `v1.SyntheticTestSpec`. -/
structure SyntheticTestSpec where
  plugin : String
  node : String
  podLabelSelector : GoMap String String
  displayName : String
  description : String
  importance : String
  «repeat» : String
  dependsOn : List String
  timeouts : Option Timeouts
  pluginRestartPolicy : String
  logWaitTime : String
  config : String
  deriving DecidableEq

/-- `v1.SyntheticTestStatus`. -/
structure SyntheticTestStatus where
  deployed : Bool
  agent : String
  message : String
  deriving DecidableEq, Repr

/-- `v1.SyntheticTest`: its metadata, spec and status. -/
structure SyntheticTest where
  name : String
  «namespace» : String
  labels : GoMap String String
  spec : SyntheticTestSpec
  status : SyntheticTestStatus
  deriving DecidableEq

end V1

/-- `k8sClient.List(ctx, &list)`: on an error the caller logs it and carries on with the
list it passed in, which stays empty. -/
def listItems {α : Type} : Except String (List α) → List α
  | .ok items => items
  | .error _ => []

end SyntheticHeart
