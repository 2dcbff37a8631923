/-
Settings of the server.  Each has a default and can be set by an environment
variable: its name behind BOARD_, in any case.
-/
import Kanban.Input.Scalar
import Kanban.Json
import Kanban.Move.Attempt

namespace Kanban

structure Settings where
  host : String
  port : Int
  corsOrigins : List String
  schemaOutputPath : String
  renormalizeThreshold : Binary64
  moveMaxRetries : Int
  logLevel : String
  logFormat : String
deriving DecidableEq

/-- Why settings cannot be read: a list that is no JSON, or values that do not
fit. -/
inductive SettingsError where
  | notJson
  | invalid (problems : List Problem)
deriving DecidableEq

namespace Settings

def default : Settings where
  host := "0.0.0.0"
  port := 4000
  corsOrigins := ["http://localhost:3000", "http://localhost:5173", "http://localhost:8080"]
  schemaOutputPath := "schema.gql"
  renormalizeThreshold := defaultThreshold
  moveMaxRetries := 3
  logLevel := "INFO"
  logFormat := "text"

/-- How moves are made under these settings. -/
def policy (settings : Settings) : MovePolicy :=
  ⟨settings.renormalizeThreshold, settings.moveMaxRetries⟩

/-- The value of the variable for a setting.  Of names that differ in case
only, the last one counts. -/
def valueOf? (environment : List (String × String)) (name : String) : Option String :=
  let wanted := "board_" ++ name
  (environment.reverse.find? fun entry => decide (entry.1.toLower = wanted)).map Prod.snd

/-- A setting read from the text of its variable, if there is one. -/
def parsed {A : Type} (name : String) (read : String → Except ProblemKind A)
    (initial : A) : Option String → Except (List Problem) A
  | none => .ok initial
  | some text => locate [.key name] (.text text) (read text)

/-- The texts of a list, each of the others a problem under its index. -/
def textsFrom (place : List PlaceStep) :
    (index : Nat) → List Value → Except (List Problem) (List String)
  | _, [] => .ok []
  | index, value :: rest =>
      let head := locate (place ++ [.index index]) value (Input.text value)
      let tail := textsFrom place (index + 1) rest
      match head, tail with
      | .ok head, .ok tail => .ok (head :: tail)
      | _, _ => .error (problemsOf head ++ problemsOf tail)

def textList (name : String) : Value → Except (List Problem) (List String)
  | .list values => textsFrom [.key name] 0 values
  | other => .error [⟨.notList, [.key name], other⟩]

/-- The value of a variable that holds JSON.  Null is as good as no value. -/
def jsonValue? : Option String → Except SettingsError (Option Value)
  | none => .ok none
  | some text =>
      match Json.read? text with
      | .ok .null => .ok none
      | .ok value => .ok (some value)
      | .error _ => .error .notJson

/-- The settings of an environment.  A list that is no JSON is turned down
before anything else is looked at; of the rest all problems are reported. -/
def ofEnvironment? (environment : List (String × String)) : Except SettingsError Settings := do
  let get := valueOf? environment
  let text (name initial : String) := (get name).getD initial
  let origins ←
    match ← jsonValue? (get "cors_origins") with
    | some value => .ok (textList "cors_origins" value)
    | none => .ok (.ok default.corsOrigins)
  let port := parsed "port" Input.wholeOfText default.port (get "port")
  let threshold := parsed "renormalize_threshold" Input.doubleOfText
    default.renormalizeThreshold (get "renormalize_threshold")
  let retries := parsed "move_max_retries" Input.wholeOfText default.moveMaxRetries
    (get "move_max_retries")
  match port, origins, threshold, retries with
  | .ok port, .ok origins, .ok threshold, .ok retries =>
      .ok {
        host := text "host" default.host
        port := port
        corsOrigins := origins
        schemaOutputPath := text "schema_output_path" default.schemaOutputPath
        renormalizeThreshold := threshold
        moveMaxRetries := retries
        logLevel := text "log_level" default.logLevel
        logFormat := text "log_format" default.logFormat }
  | _, _, _, _ =>
      .error (.invalid (problemsOf port ++ problemsOf origins ++ problemsOf threshold ++
        problemsOf retries))

end Settings

end Kanban
