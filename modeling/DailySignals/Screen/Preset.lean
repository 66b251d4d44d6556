import DailySignals.Condition.Basic
import DailySignals.Screen.Order

/-!
# Ready-made screens
-/

set_option autoImplicit false

namespace DailySignals

/-- A named screen. -/
structure Preset (α : Type) where
  id : String
  name : String
  description : String
  conditions : ConditionSet α
  order : SortOrder

namespace Preset

variable {α : Type} [Arithmetic α]

def atLeast (field : Field) (bound : α) : Condition α :=
  .numeric field (.atLeast bound)

def shortTermStrong : Preset α where
  id := "short_term_strong"
  name := "Short-term strong"
  description := "Strong 5-day return, expanding volume, upper half of the 20-day range"
  conditions := .all
    [atLeast .return5 0.05, atLeast .rangePos20 0.6, atLeast .volumeMultiple 1.5,
      .tags [.shortTermStrong, .volumeSurge] [] []]
  order := ⟨.score, true⟩

def volumeSurge : Preset α where
  id := "volume_surge"
  name := "Volume surge"
  description := "Volume well above average with a non-negative 5-day return"
  conditions := .all [atLeast .volumeMultiple 2, atLeast .return5 0]
  order := ⟨.volumeMultiple, true⟩

def bullishBreakout : Preset α where
  id := "bullish_breakout"
  name := "Bullish breakout"
  description := "Near the 20-day high, above the 20-day average, good score"
  conditions := .all
    [atLeast .rangePos20 0.9, atLeast .score 65, atLeast .deviation20 0, atLeast .return20 0]
  order := ⟨.score, true⟩

def lowVolatilityBase : Preset α where
  id := "low_vol_base"
  name := "Low-volatility base"
  description := "Quiet 20-day range hugging the moving average"
  conditions := .all
    [.numeric .avgAmplitude20 (.atMost 0.02), .numeric .deviation20 (.between (-0.02) 0.02),
      .tags [] [] [.highVolatility]]
  order := ⟨.score, true⟩

def nearHigh : Preset α where
  id := "near_high"
  name := "Near high"
  description := "Close near the 20-day high with a good score"
  conditions := .all [atLeast .rangePos20 0.8, atLeast .score 60]
  order := ⟨.rangePos20, true⟩

def all : List (Preset α) :=
  [shortTermStrong, volumeSurge, bullishBreakout, lowVolatilityBase, nearHigh]

def find? (id : String) : Option (Preset α) :=
  all.find? fun preset => preset.id == id

end Preset

end DailySignals
