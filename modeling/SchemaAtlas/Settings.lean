import SchemaAtlas.Text.Numeral
/-!
Settings of the service, read from named texts of its environment. A profile fixes some of them.
-/
namespace SchemaAtlas

inductive Profile where
  | development
  | production
  | testing
deriving DecidableEq, Repr

def Profile.label : Profile → String
  | .development => "DevelopmentConfig"
  | .production => "ProductionConfig"
  | .testing => "TestingConfig"

/-- Times are in seconds, lengths in characters and in bytes. -/
structure Settings where
  secretKey : String
  debug : Bool
  testing : Bool
  longestScript : Int
  longestBody : Int
  cacheCapacity : Int
  cacheLifetime : Int
  limitsRates : Bool
  rateLimits : String
  rateStorage : String
  logLevel : String
  outputDirectory : String
  host : String
  port : Int
deriving DecidableEq, Repr

namespace Settings

abbrev Environment := List (String × String)

def text (environment : Environment) (name fallback : String) : String :=
  (environment.lookup name).getD fallback

def number (environment : Environment) (name : String) (fallback : Int) :
    Except NumeralError Int :=
  match environment.lookup name with
  | none => .ok fallback
  | some value => Numeral.read value.toList

/-- The profile of a name that is not known is that of development. -/
def profile (environment : Environment) : Profile :=
  match text environment "FLASK_ENV" "development" with
  | "production" => .production
  | "testing" => .testing
  | _ => .development

def standardSecretKey : String := "dev-secret-key-change-in-production"

/-- What the environment says, whatever the profile; the first bad number is reported. -/
def common (environment : Environment) : Except NumeralError Settings := do
  let text := text environment
  return {
    secretKey := text "SECRET_KEY" standardSecretKey
    debug := false
    testing := false
    longestScript := ← number environment "MAX_SQL_LENGTH" 1000000
    longestBody := ← number environment "MAX_CONTENT_LENGTH" 16777216
    cacheCapacity := ← number environment "PARSE_CACHE_SIZE" 10
    cacheLifetime := ← number environment "PARSE_CACHE_TTL" 3600
    limitsRates := true
    rateLimits := text "RATELIMIT_DEFAULT" "200 per hour"
    rateStorage := text "RATELIMIT_STORAGE_URI" "memory://"
    logLevel := text "LOG_LEVEL" "INFO"
    outputDirectory := text "DIAGRAM_OUTPUT_DIR" "output"
    host := text "HOST" "0.0.0.0"
    port := ← number environment "PORT" 5001 }

def forProfile (environment : Environment) (settings : Settings) : Profile → Settings
  | .development =>
    { settings with debug := true, logLevel := text environment "LOG_LEVEL" "DEBUG" }
  | .production => settings
  | .testing => { settings with testing := true, limitsRates := false, cacheLifetime := 60 }

def load (environment : Environment) : Except NumeralError Settings := do
  return forProfile environment (← common environment) (profile environment)

inductive Fault where
  | missing (names : List String)
  | noScriptLength
deriving DecidableEq, Repr

def Fault.message : Fault → String
  | .missing names => "Missing required production settings: " ++ ", ".intercalate names
  | .noScriptLength => "MAX_SQL_LENGTH must be positive"

/-- What keeps the settings from being used in production. -/
def fault? (settings : Settings) : Option Fault :=
  if settings.secretKey == "" || settings.secretKey == standardSecretKey then
    some (.missing ["SECRET_KEY"])
  else if settings.longestScript ≤ 0 then some .noScriptLength
  else none

end Settings
end SchemaAtlas
