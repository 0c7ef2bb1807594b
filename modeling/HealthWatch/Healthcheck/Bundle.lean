import HealthWatch.Files
import HealthWatch.Healthcheck.Annotations
import HealthWatch.Json.Value

/-! # Healthchecks of bundles

The configuration of a bundle is a JSON object. Its annotations may hold, under some key, the
annotation of a healthcheck. A bundle without configuration, without annotations or without
that key has no healthcheck, which is no failure.
-/

namespace HealthWatch.Bundle

/-- Where the configuration of a bundle is. -/
def configPath (bundle : Bytes) : Bytes := Path.join bundle "config.json"

/-- The annotation under a key of a configuration, if there is one. -/
def payload? (root : Json.Value) (key : String) : Except BundleFault (Option String) :=
  match root with
  | .object members =>
      match Json.Value.last? members "annotations" with
      | none | some .null => .ok none
      | some (.object annotations) =>
          match Json.Value.last? annotations key with
          | none => .ok none
          | some (.string payload) => .ok (some payload)
          | some _ => .error (.entryNotString key)
      | some _ => .error .annotationsNotObject
  | _ => .error .rootNotObject

/-- The healthcheck in the text of a configuration that was read from `path`. -/
def parse (path : Bytes) (content key : String) : Except Failure (Option Healthcheck) :=
  match Json.Value.ofText content with
  | .error error => .error (.bundleInvalid path (.notJson error))
  | .ok root =>
      match payload? root key with
      | .error fault => .error (.bundleInvalid path fault)
      | .ok none => .ok none
      | .ok (some payload) => (Annotations.parse payload).map some

/-- The healthcheck of a bundle, under a key of its annotations. -/
def discover (read : FileReader) (bundle : Bytes) (key : String) :
    Except Failure (Option Healthcheck) :=
  match read.text (configPath bundle) with
  | .error .notFound => .ok none
  | .error fault => .error (.bundleUnreadable (configPath bundle) fault)
  | .ok content => parse (configPath bundle) content key

end HealthWatch.Bundle
