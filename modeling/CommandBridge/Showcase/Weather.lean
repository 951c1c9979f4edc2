import CommandBridge.Decimal.Binary64
import CommandBridge.Descriptor.Basic
import CommandBridge.Handler.Action

/-!
# Simulated weather

A reading is computed from the city's name and a running number alone.
-/

set_option autoImplicit false

namespace CommandBridge.Showcase

inductive Conditions where
  | sunny | cloudy | rain | snow
deriving DecidableEq, Repr

namespace Conditions

def name : Conditions → String
  | sunny => "sunny"
  | cloudy => "cloudy"
  | rain => "rain"
  | snow => "snow"

def all : List Conditions := [sunny, cloudy, rain, snow]

def type : Descriptor := .enum ⟨"Conditions", all.map name, none⟩

end Conditions

structure Reading where
  city : String
  sequence : UInt32
  temperature : Binary64
  conditions : Conditions

namespace Reading

def type : Descriptor :=
  .record "Reading" (some "One weather observation.")
    [.required "city" .string, .required "sequence" .integer,
      { FieldOf.required "temperature_c" .float with description := some "Degrees Celsius" },
      .required "conditions" Conditions.type]

def toJson (r : Reading) : Json :=
  .ofMembers [("city", .string r.city), ("sequence", .nat r.sequence.toNat),
    ("temperature_c", .number (.float r.temperature)), ("conditions", .string r.conditions.name)]

def seed (city : String) (sequence : UInt32) : UInt64 :=
  city.toUTF8.data.toList.foldl (fun h b => h * 31 + b.toUInt64) 17 + sequence.toUInt64 * 7919

def conditionsOf (seed : UInt64) : Conditions :=
  match (seed / 7 % 4).toNat with
  | 0 => .sunny
  | 1 => .cloudy
  | 2 => .rain
  | _ => .snow

def temperatureOf (seed : UInt64) : Binary64 :=
  ((Binary64.ofInt (seed % 400).toNat).divNat 10).subNat 5

end Reading

def reading (city : String) (sequence : UInt32) : Reading :=
  let seed := Reading.seed city sequence
  ⟨city, sequence, Reading.temperatureOf seed, Reading.conditionsOf seed⟩

def maxForecastDays : UInt32 := 14

def forecast (city : String) (days : UInt32) : Outcome (List Reading) :=
  if days = 0 ∨ maxForecastDays < days then
    .failed (.invalidArgument ("days must be between 1 and " ++ toString maxForecastDays))
  else .done ((List.range days.toNat).map fun day => reading city (.ofNat day))

end CommandBridge.Showcase
