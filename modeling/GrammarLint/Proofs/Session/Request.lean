/-
  GrammarLint/Proofs/Session/Request.lean
  =======================================
  **What an analyzer is sent** — one request for every analysis, from which both texts can be
  read again.

  A request is a compact object with two members whose values are the texts themselves, so
  everything in the texts that could be taken for a part of the object is escaped.  It is a
  document of a map of strings, and the reader of such maps takes every document for one map
  only; this is why no two pairs of texts have the same request (`analyze_sends_texts`).
-/
import GrammarLint.Proofs.Json.OneLine
import GrammarLint.Proofs.Session.Vault
import GrammarLint.Session.Analyzer

namespace GrammarLint

open Json Sandbox Text

/-- A request holds exactly the two texts. -/
theorem parse_request (grammar code : String) :
    parse stringMap (request grammar code) = .ok [("code", code), ("grammar", grammar)] :=
  parse_object_literals [("code", code), ("grammar", grammar)]

/-- What a program makes of the bytes of its input that looks for the two texts in them. -/
def textsOfRequest? (bytes : ByteArray) : Option (String × String) := do
  let entries ← (parse stringMap (← String.fromUTF8? bytes)).toOption
  return (← entries.lookup "grammar", ← entries.lookup "code")

theorem textsOfRequest?_request (grammar code : String) :
    textsOfRequest? (request grammar code).toUTF8 = some (grammar, code) := by
  simp only [textsOfRequest?, fromUTF8?_toUTF8, parse_request, Except.toOption, Option.bind_eq_bind,
    Option.bind_some]
  rfl

theorem printable_request (grammar code : String) : Printable (request grammar code).toList := by
  rw [request, String.toList_ofList]
  apply printable_object
  intro e he
  simp only [List.mem_cons, List.not_mem_nil, or_false] at he
  rcases he with rfl | rfl
  · exact printable_literal code
  · exact printable_literal grammar

/-- Different pairs of texts have different requests. -/
theorem request_inj {grammar code grammar' code' : String} :
    request grammar' code' = request grammar code ↔ grammar' = grammar ∧ code' = code := by
  constructor
  · intro h
    have htexts := textsOfRequest?_request grammar' code'
    rw [h, textsOfRequest?_request grammar code] at htexts
    have hpair := Option.some.inj htexts
    exact ⟨(congrArg Prod.fst hpair).symm, (congrArg Prod.snd hpair).symm⟩
  · rintro ⟨rfl, rfl⟩
    rfl

theorem launches_analyze (m : Machine) (program : Program) (grammar code : String) (w : World) :
    ((program.analyze m.host grammar code).run w).2.launches =
      w.launches.push (program, request grammar code) := rfl

/-- **An analyzer is sent both texts, and nothing else.**  It is run once for an analysis.
    What it is sent has no characters below a space, and it is a document of one map of
    strings only, which has the two texts under two keys.  A program that reads them there
    gets back both as they were, so different pairs of texts have different requests. -/
theorem analyze_sends_texts (m : Machine) (program : Program) (grammar code : String)
    (w : World) :
    ∃ text, ((program.analyze m.host grammar code).run w).2.launches =
        w.launches.push (program, text) ∧
      (∀ c ∈ text.toList, ¬ c < ' ') ∧
      (∀ entries, Document (Bracketed '{' '}' StringMember) text entries ↔
        entries = [("code", code), ("grammar", grammar)]) ∧
      textsOfRequest? text.toUTF8 = some (grammar, code) ∧
      ∀ (m' : Machine) (program' : Program) (grammar' code' : String) (w' : World),
        ((program'.analyze m'.host grammar' code').run w').2.launches =
          w'.launches.push (program', text) ↔ grammar' = grammar ∧ code' = code := by
  refine ⟨request grammar code, launches_analyze m program grammar code w,
    printable_request grammar code, ?_, textsOfRequest?_request grammar code, ?_⟩
  · intro entries
    rw [← reads_stringMap.parse_eq_ok, parse_request, Except.ok.injEq]
    exact eq_comm
  · intro m' program' grammar' code' w'
    rw [launches_analyze, ← request_inj, Array.push_eq_push, Prod.mk.injEq]
    constructor
    · rintro ⟨⟨-, h⟩, -⟩
      exact h
    · intro h
      exact ⟨⟨rfl, h⟩, rfl⟩

-- Texts that look like the request itself do not come out of their places.
example : request "\",\"code\":\"" "\\\n" =
    "\x7b\"code\":\"\\\\\\n\",\"grammar\":\"\\\",\\\"code\\\":\\\"\"\x7d" := by decide +kernel

end GrammarLint
