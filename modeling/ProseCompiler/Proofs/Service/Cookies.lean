import Mathlib.Data.List.Induction
import Mathlib.Logic.Basic
import ProseCompiler.Service.Cookies

/-!
# Services that set no cookies

As long as no answer sets a cookie, a client with a jar sends every request as it was made
(`Jar.sent_eq`), and so it makes no difference to what the service answers
(`Service.through_eq`).
-/

namespace ProseCompiler

variable {jar : Jar} {service : Service}

namespace Jar

/-- One more request goes out after the others. -/
theorem history_concat (jar : Jar) (service : Service) (made : List Request) (request : Request) :
    jar.history service (made ++ [request]) =
      jar.history service made ++ [(jar.sent service made request,
        service ((jar.history service made).map Prod.fst) (jar.sent service made request))] := by
  rw [history, List.foldl_append]
  rfl

/-- Every answer in a history is one of the service. -/
theorem exists_of_mem_history {made : List Request} {exchange : Request × Answer}
    (h : exchange ∈ jar.history service made) :
    ∃ earlier, exchange.2 = service earlier exchange.1 := by
  induction made using List.reverseRecOn with
  | nil => exact absurd h List.not_mem_nil
  | append_singleton made request ih =>
    rw [history_concat] at h
    rcases List.mem_append.mp h with hbefore | hlast
    · exact ih hbefore
    · rw [List.mem_singleton.mp hlast]
      exact ⟨_, rfl⟩

section Unset

variable (hjar : jar.SendsBack)
  (hservice : ∀ earlier request, ¬(service earlier request).SetsCookie)
include hjar hservice

/-- Without cookies, a request goes out as it was made. -/
theorem sent_eq (earlier : List Request) (request : Request) :
    jar.sent service earlier request = request := by
  have hnone : jar (jar.history service earlier) request = none := by
    refine hjar _ _ fun exchange hexchange => ?_
    obtain ⟨before, heq⟩ := exists_of_mem_history hexchange
    rw [heq]
    exact hservice before exchange.1
  rw [sent, hnone, Request.withCookies]

/-- Without cookies, the history is that of the requests that were made. -/
theorem map_fst_history (made : List Request) :
    (jar.history service made).map Prod.fst = made := by
  induction made using List.reverseRecOn with
  | nil => rfl
  | append_singleton made request ih =>
    rw [history_concat, List.map_append, ih, sent_eq hjar hservice, List.map_singleton]

end Unset

end Jar

/-- A service that sets no cookies is the same through a client that keeps them. -/
theorem Service.through_eq (hjar : jar.SendsBack)
    (hservice : ∀ earlier request, ¬(service earlier request).SetsCookie) :
    service.through jar = service := by
  funext earlier request
  rw [Service.through, Jar.map_fst_history hjar hservice, Jar.sent_eq hjar hservice]

/-- A client with an empty jar at first sends back what was set, and nothing else. -/
theorem Jar.ofLast_sendsBack : Jar.ofLast.SendsBack := by
  intro history request hunset
  refine List.findSome?_eq_none_iff.mpr fun exchange hexchange => ?_
  have hnone := hunset exchange (List.mem_reverse.mp hexchange)
  obtain ⟨_, answer⟩ := exchange
  cases answer with
  | response status headers body text =>
    rw [Answer.SetsCookie, not_not] at hnone
    simp only [hnone, Option.map_none]
  | _ => rfl

end ProseCompiler
