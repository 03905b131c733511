import WebhookRelay.CommandLine.Help
import WebhookRelay.Proofs.Json.Scanning

/-!
# When there is a help text

Explanations are texts with fields, and two of them hold a default as it comes from the settings. So
there is no help text if a percent sign in a default makes a field that cannot be filled, but there
is one if no default has a percent sign.

- `Flag.row?_of_not_mem`: the help on a flag whose explanation has no fields.
- `help_isSome`: there is a help text if no default has a percent sign.
-/

namespace WebhookRelay.CommandLine

/-- An explanation without percent signs is its own text. -/
theorem Flag.row?_of_not_mem {s : Settings} {flag : Flag}
    (h : '%' ∉ (flag.explanation s).toList) :
    flag.row? s = some (helpRow flag.invocation (flag.explanation s)) := by
  rw [row?, Log.messageText?_of_not_mem h rfl]
  rfl

/-- No percent sign is written in an integer. -/
theorem not_mem_showInteger (n : Int) : '%' ∉ Text.showInteger n := by
  have hnatural : ∀ n, '%' ∉ Text.showNatural n := fun n hmem =>
    absurd (Json.isDigit_of_mem_showNatural hmem) (by decide)
  cases n with
  | ofNat n => exact hnatural n
  | negSucc n =>
    intro hmem
    obtain heq | hmem := List.mem_cons.mp hmem
    · exact absurd heq (by decide)
    · exact hnatural (n + 1) hmem

/-- In an explanation a percent sign comes from the default. -/
theorem not_mem_around {start value : String} (hstart : '%' ∉ start.toList)
    (hvalue : '%' ∉ value.toList) : '%' ∉ (start ++ value ++ ")").toList := by
  rw [String.toList_append, String.toList_append, List.mem_append, List.mem_append, not_or, not_or]
  exact ⟨⟨hstart, hvalue⟩, by decide⟩

/-- Without one in the defaults, there is none in any explanation. -/
theorem Flag.not_mem_explanation {s : Settings} (hhost : '%' ∉ s.host.toList)
    (hlevel : '%' ∉ s.logLevel.toList) (flag : Flag) : '%' ∉ (flag.explanation s).toList := by
  cases flag with
  | help =>
    show '%' ∉ "show this help message and exit".toList
    decide +kernel
  | host => exact not_mem_around (by decide +kernel) hhost
  | port =>
    refine not_mem_around (by decide +kernel) ?_
    rw [String.toList_ofList]
    exact not_mem_showInteger s.port
  | logLevel => exact not_mem_around (by decide +kernel) hlevel

/-- If no default has a percent sign, there is a help text. -/
theorem help_isSome {s : Settings} (hhost : '%' ∉ s.host.toList)
    (hlevel : '%' ∉ s.logLevel.toList) : (help s).isSome = true := by
  have hrow : ∀ flag, Flag.row? s flag = some (helpRow flag.invocation (flag.explanation s)) :=
    fun flag => Flag.row?_of_not_mem (flag.not_mem_explanation hhost hlevel)
  simp [help, Flag.all, hrow]

end WebhookRelay.CommandLine
