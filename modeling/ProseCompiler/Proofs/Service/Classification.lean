import ProseCompiler.Proofs.Encoding.Utf8
import ProseCompiler.Proofs.Json.Limits
import ProseCompiler.Service.Answer

/-!
# What an answer comes to

An answer is meant to come to one of four things: code, an error of the service, an
error about the shape of the answer, or an error about code that is empty.
`Classified` says which answers come to which.

Some answers come to something else (`Strays`): a body that the JSON reader gives up
for its size and not for its form, a redirection to an address that is none, a body of
an error that has no text in the encoding it is declared in, and whatever the transport
raises beyond its own errors.  Every answer is one or the other
(`classified_or_strays`), whatever encodings are known to whoever receives it.
`Strays.body_of_success` bounds what a body of success has to hold to stray.
-/

namespace ProseCompiler

/-- An answer without a known shape is an error about its shape. -/
theorem Shape.ofAnswer_error {value : Json} {error : CompilerError}
    (h : Shape.ofAnswer value = .error error) :
    ∃ message keys, error = .responseShape message keys := by
  unfold ofAnswer at h
  split at h
  · split at h <;> cases h
    exact ⟨_, _, rfl⟩
  · cases h
    exact ⟨_, _, rfl⟩

namespace Answer

/-- What an answer is meant to come to, for code in a language. -/
inductive Classified (language : Text) : Answer → Except Problem Text → Prop where
  | unreachable {kind message : Text} :
      Classified language (.unreachable kind message)
        (.error (.reported (.service
          ("Generation service unreachable: " ++ kind ++ ": " ++ message) none message)))
  | refused {status : Int} {headers : List (Text × Text)} {body : Bytes}
      {text : Except Fault Text} {message details : Text}
      {reported : Option Int} (hstatus : isSuccess status = false) :
      Classified language (.response status headers body text)
        (.error (.reported (.service message reported details)))
  | notJson {status : Int} {headers : List (Text × Text)} {body : Bytes} {text : Except Fault Text}
      (hstatus : isSuccess status = true) (hbody : ∀ value, jsonBody body ≠ .ok value) :
      Classified language (.response status headers body text)
        (.error (.reported (.responseShape "Generation service returned invalid JSON" none)))
  | unshaped {status : Int} {headers : List (Text × Text)} {body : Bytes}
      {text : Except Fault Text} {value : Json}
      {message : Text} {keys : Option (List Text)} (hstatus : isSuccess status = true)
      (hbody : jsonBody body = .ok value)
      (hshape : Shape.ofAnswer value = .error (.responseShape message keys)) :
      Classified language (.response status headers body text)
        (.error (.reported (.responseShape message keys)))
  | blank {status : Int} {headers : List (Text × Text)} {body : Bytes}
      {text : Except Fault Text} {value : Json}
      {shape : Shape} {t : Text} (hstatus : isSuccess status = true)
      (hbody : jsonBody body = .ok value) (hshape : Shape.ofAnswer value = .ok (shape, t))
      (hblank : Text.trim t = []) :
      Classified language (.response status headers body text)
        (.error (.reported (.emptyArtifact (some language))))
  | code {status : Int} {headers : List (Text × Text)} {body : Bytes}
      {text : Except Fault Text} {value : Json}
      {shape : Shape} {t : Text} (hstatus : isSuccess status = true)
      (hbody : jsonBody body = .ok value) (hshape : Shape.ofAnswer value = .ok (shape, t))
      (hcode : Text.trim t ≠ []) :
      Classified language (.response status headers body text) (.ok (Text.trim t))

/-- What an answer comes to instead. -/
inductive Strays : Answer → Problem → Prop where
  | tooManyDigits {status : Int} {headers : List (Text × Text)} {body : Bytes}
      {text : Except Fault Text} {t : Text} {n : Nat}
      (hstatus : isSuccess status = true) (htext : jsonText? body = some t)
      (hread : Json.read t = .error (.tooManyDigits n)) :
      Strays (.response status headers body text) (.unexpected (.badValue (Json.digitsMessage n)))
  | tooDeep {status : Int} {headers : List (Text × Text)} {body : Bytes}
      {text : Except Fault Text} {t message : Text}
      (hstatus : isSuccess status = true) (htext : jsonText? body = some t)
      (hread : Json.read t = .error (.tooDeep message)) :
      Strays (.response status headers body text) (.unexpected (.tooDeep message))
  | misdirected {status : Int} {headers : List (Text × Text)} {body : Bytes}
      {text : Except Fault Text} {fault : Fault}
      (hstatus : isSuccess status = false)
      (hredirect : redirectProblem? status headers = some (.unexpected fault)) :
      Strays (.response status headers body text) (.unexpected fault)
  | unreadable {status : Int} {headers : List (Text × Text)} {body : Bytes} {fault : Fault}
      (hstatus : isSuccess status = false) (hredirect : redirectProblem? status headers = none) :
      Strays (.response status headers body (.error fault)) (.unexpected fault)
  | raised {fault : Fault} : Strays (.raised fault) (.unexpected fault)
  | reported {error : CompilerError} : Strays (.reported error) (.reported error)
  | untold {kind : Text} {fault : Fault} :
      Strays (.untold kind fault) (.unexpected (.raised kind noText))
  | interrupted {message : Text} : Strays (.interrupted message) (.interrupted message)

section Cases

variable {language document : Text} {request : Request} {answer : Answer} {status : Int}
  {headers : List (Text × Text)} {body : Bytes} {text : Except Fault Text} {problem : Problem}

/-- What strays is not classified. -/
theorem Strays.not_classified (h : Strays answer problem) :
    ¬Classified language answer (.error problem) := by
  intro hclassified
  cases h <;> cases hclassified

/-! ## The body of a success -/

theorem redirectProblem?_of_success (hstatus : isSuccess status = true) :
    redirectProblem? status headers = none := by
  rw [redirectProblem?, if_neg]
  intro hmoved
  rw [List.contains_iff_mem] at hmoved
  have hnone : ∀ status ∈ [301, 302, 303, 307, 308], isSuccess status = false := by decide
  rw [hnone status hmoved] at hstatus
  cases hstatus

theorem value_of_success (haddress : addressProblem? request = none)
    (hstatus : isSuccess status = true) :
    (response status headers body text).value request = jsonBody body := by
  simp only [value, haddress, redirectProblem?_of_success hstatus, hstatus, if_true]

/-- A body of a success without a value is not JSON, or is given up for its size. -/
theorem classified_or_strays_of_body (hstatus : isSuccess status = true)
    (h : jsonBody body = .error problem) :
    Classified language (.response status headers body text) (.error problem) ∨
      Strays (.response status headers body text) problem := by
  have hnone : ∀ value, jsonBody body ≠ .ok value := by simp [h]
  rw [jsonBody] at h
  split at h
  · cases h
    exact .inl (.notJson hstatus hnone)
  · next t htext =>
    split at h
    · cases h
    · cases h
      exact .inl (.notJson hstatus hnone)
    · next hread =>
      cases h
      exact .inr (.tooManyDigits hstatus htext hread)
    · next hread =>
      cases h
      exact .inr (.tooDeep hstatus htext hread)

/-- JSON comes to code, or to one of the errors about it. -/
theorem classified_of_body {value : Json} (haddress : addressProblem? request = none)
    (hstatus : isSuccess status = true) (h : jsonBody body = .ok value) :
    Classified language (.response status headers body text)
      ((response status headers body text).code request document language).2 := by
  have hvalue : (response status headers body text).value request = .ok value := by
    rw [value_of_success haddress hstatus, h]
  rw [Answer.code, hvalue]
  simp only
  cases hshape : Shape.ofAnswer value with
  | error error =>
    obtain ⟨message, keys, rfl⟩ := Shape.ofAnswer_error hshape
    exact .unshaped hstatus h hshape
  | ok found =>
    obtain ⟨shape, t⟩ := found
    simp only [Shape.codeIn]
    by_cases hblank : Text.trim t = []
    · simp only [if_pos hblank]
      exact .blank hstatus h hshape hblank
    · simp only [if_neg hblank]
      exact .code hstatus h hshape hblank

/-! ## Any answer -/

theorem code_of_value_error (h : answer.value request = .error problem) :
    (answer.code request document language).2 = .error problem := by
  rw [Answer.code, h]

/-- An answer that strays comes to what it strays to. -/
theorem Strays.code_eq (h : Strays answer problem) (haddress : addressProblem? request = none) :
    (answer.code request document language).2 = .error problem := by
  apply code_of_value_error
  cases h with
  | tooManyDigits hstatus htext hread | tooDeep hstatus htext hread =>
    rw [value_of_success haddress hstatus, jsonBody, htext]
    simp only [hread]
  | misdirected hstatus hredirect => simp only [value, haddress, hredirect]
  | unreadable hstatus hredirect =>
    simp only [value, haddress, hredirect, hstatus, Bool.false_eq_true, if_false, statusProblem]
  | raised | reported | untold | interrupted => rfl

/-- What is wrong with a redirection is an error of the service, or a fault. -/
theorem redirectProblem?_cases (h : redirectProblem? status headers = some problem) :
    (∃ message details, problem = .reported (.service message none details)) ∨
      ∃ fault, problem = .unexpected fault := by
  rw [redirectProblem?] at h
  split at h
  · split at h
    · cases h
    · split at h
      · cases h
        exact .inl ⟨_, _, rfl⟩
      · split at h
        · cases h
          exact .inr ⟨_, rfl⟩
        · cases h
  · cases h

/-- An answer whose status is none of success is an error of the service, unless it
strays. -/
theorem classified_or_strays_of_failure (haddress : addressProblem? request = none)
    (hstatus : isSuccess status = false) :
    Classified language (.response status headers body text)
        ((response status headers body text).code request document language).2 ∨
      ∃ problem, Strays (.response status headers body text) problem := by
  cases hredirect : redirectProblem? status headers with
  | some problem =>
    rcases redirectProblem?_cases hredirect with ⟨message, details, rfl⟩ | ⟨fault, rfl⟩
    · have hvalue : (response status headers body text).value request =
          .error (.reported (.service message none details)) := by
        simp only [value, haddress, hredirect]
      rw [code_of_value_error hvalue]
      exact .inl (.refused hstatus)
    · exact .inr ⟨_, .misdirected hstatus hredirect⟩
  | none =>
    cases text with
    | error fault => exact .inr ⟨_, .unreadable hstatus hredirect⟩
    | ok t =>
      have hvalue : (response status headers body (.ok t)).value request =
          .error (statusProblem status (.ok t)) := by
        simp only [value, haddress, hredirect, hstatus, Bool.false_eq_true, if_false]
      rw [code_of_value_error hvalue]
      exact .inl (.refused hstatus)

/-- Every answer is classified, or strays. -/
theorem classified_or_strays (haddress : addressProblem? request = none) (answer : Answer) :
    Classified language answer (answer.code request document language).2 ∨
      ∃ problem, Strays answer problem := by
  cases answer with
  | interrupted message => exact .inr ⟨_, .interrupted⟩
  | raised fault => exact .inr ⟨_, .raised⟩
  | reported error => exact .inr ⟨_, .reported⟩
  | untold kind fault => exact .inr ⟨_, .untold⟩
  | unreachable kind message => exact .inl .unreachable
  | response status headers body text =>
    cases hstatus : isSuccess status with
    | false => exact classified_or_strays_of_failure haddress hstatus
    | true =>
      cases hbody : jsonBody body with
      | ok value => exact .inl (classified_of_body haddress hstatus hbody)
      | error problem =>
        have hvalue : (response status headers body text).value request = .error problem := by
          rw [value_of_success haddress hstatus, hbody]
        rw [code_of_value_error hvalue]
        exact (classified_or_strays_of_body hstatus hbody).imp_right fun h => ⟨problem, h⟩

/-- A body of a success strays only if its text holds an integer of more than 4300
digits, or opens more than 970 arrays and objects. -/
theorem Strays.body_of_success (h : Strays (.response status headers body text) problem)
    (hstatus : isSuccess status = true) :
    ∃ t, jsonText? body = some t ∧
      ((∃ digits : Text, 4300 < digits.length ∧ (∀ c ∈ digits, c.isDigit = true) ∧ digits <:+: t) ∨
        970 < Json.openings t) := by
  cases h with
  | tooManyDigits _ htext hread =>
    obtain ⟨hlong, digits, rfl, hdigits, hinfix⟩ := Json.refuses_of_read hread
    exact ⟨_, htext, .inl ⟨digits, hlong, hdigits, hinfix⟩⟩
  | tooDeep _ htext hread => exact ⟨_, htext, .inr (Json.refuses_of_read hread)⟩
  | misdirected hfailure | unreadable hfailure =>
    rw [hstatus] at hfailure
    cases hfailure

end Cases

/-! ## A body that is one long integer -/

section LongInteger

/-- Octets are read as UTF-8 if the first four are none that a mark or a wide encoding
starts with. -/
theorem jsonText?_of_octets {a b c d : UInt8} {rest : Bytes}
    (h : ∀ x ∈ [a, b, c, d], x ≠ 0 ∧ x ≠ 0xEF ∧ x ≠ 0xFE ∧ x ≠ 0xFF) :
    jsonText? (a :: b :: c :: d :: rest) = Utf8.decodeLoose? (a :: b :: c :: d :: rest) := by
  simp only [List.forall_mem_cons] at h
  obtain ⟨⟨ha, ha8, haE, haF⟩, ⟨hb, -⟩, -⟩ := h
  have hmark4 : Charset.mark4? (a :: b :: c :: d :: rest) = none := by
    simp [Charset.mark4?, ha, haF]
  have hmark2 : Charset.mark2? (a :: b :: c :: d :: rest) = none := by
    simp [Charset.mark2?, haE, haF]
  have hmark8 : Charset.withoutMark8 (a :: b :: c :: d :: rest) = a :: b :: c :: d :: rest := by
    rw [Charset.withoutMark8]
    rintro rest' heq
    cases heq
    exact ha8 rfl
  rw [jsonText?, hmark4, hmark2]
  simp only [if_neg ha, if_neg hb, hmark8]

theorem octet_of_isDigit {c : CodePoint} (hc : c.isDigit = true) :
    Utf8.ofCodePoint c = [Utf8.octet c.val] ∧ Utf8.octet c.val ≠ 0 ∧ Utf8.octet c.val ≠ 0xEF ∧
      Utf8.octet c.val ≠ 0xFE ∧ Utf8.octet c.val ≠ 0xFF := by
  simp only [CodePoint.isDigit, Bool.and_eq_true, decide_eq_true_eq] at hc
  have hne {b : UInt8} (hb : b.toNat < 0x30 ∨ 0x39 < b.toNat) : Utf8.octet c.val ≠ b := by
    rintro rfl
    rw [Utf8.toNat_octet (by omega)] at hb
    omega
  exact ⟨by rw [Utf8.ofCodePoint, if_pos (by omega)], hne (by decide), hne (by decide),
    hne (by decide), hne (by decide)⟩

variable {digits : Text} (hdigits : ∀ c ∈ digits, c.isDigit = true)

include hdigits in
theorem jsonText?_of_digits (hlength : 4 ≤ digits.length) :
    jsonText? (digits.flatMap Utf8.ofCodePoint) = some digits := by
  have hdecode : Utf8.decodeLoose? (digits.flatMap Utf8.ofCodePoint) = some digits := by
    refine Utf8.decodeLoose?_flatMap fun c hc => ?_
    have hdigit := hdigits c hc
    simp only [CodePoint.isDigit, Bool.and_eq_true, decide_eq_true_eq] at hdigit
    simp only [CodePoint.isSurrogate, Bool.and_eq_false_iff, decide_eq_false_iff_not]
    omega
  rcases digits with _ | ⟨a, _ | ⟨b, _ | ⟨c, _ | ⟨d, more⟩⟩⟩⟩
  iterate 4 exact absurd hlength (by simp)
  simp only [List.forall_mem_cons] at hdigits
  obtain ⟨ha, hb, hc, hd, -⟩ := hdigits
  rw [← hdecode]
  simp only [List.flatMap_cons, (octet_of_isDigit ha).1, (octet_of_isDigit hb).1,
    (octet_of_isDigit hc).1, (octet_of_isDigit hd).1, List.cons_append, List.nil_append]
  refine jsonText?_of_octets ?_
  simp only [List.forall_mem_cons]
  exact ⟨(octet_of_isDigit ha).2, (octet_of_isDigit hb).2, (octet_of_isDigit hc).2,
    (octet_of_isDigit hd).2, by simp⟩

include hdigits in
/-- An integer with too many digits is JSON, but it strays. -/
theorem long_integer_strays {status : Int} {headers : List (Text × Text)}
    (hzero : digits.head? ≠ some ('0' : CodePoint)) (hlong : digits.length > Number.digitLimit)
    (hstatus : isSuccess status = true) :
    Strays (.response status headers (digits.flatMap Utf8.ofCodePoint))
      (.unexpected (.badValue (Json.digitsMessage digits.length))) := by
  have hlength : 4 ≤ digits.length := by
    rw [Number.digitLimit] at hlong
    omega
  exact .tooManyDigits hstatus (jsonText?_of_digits hdigits hlength)
    (Json.read_of_digits hdigits hzero hlong)

end LongInteger

end Answer

namespace Exchange

variable {config : Config} {service : Service} {earlier : List Request}
  {document instructions language : Text} {request : Request}

/-- A service that answers every request with a JSON integer of 4301 digits. -/
def longIntegerService : Service :=
  fun _ _ => .response 200 [] ((Text.fill 4301 '1').flatMap Utf8.ofCodePoint)

theorem longIntegerService_strays :
    Answer.Strays (longIntegerService [] request)
      (.unexpected (.badValue (Json.digitsMessage 4301))) := by
  have hlength : (Text.fill 4301 '1').length = 4301 := List.length_replicate
  have hdigits : ∀ c ∈ Text.fill 4301 '1', c.isDigit = true := by
    intro c hc
    rw [List.eq_of_mem_replicate hc]
    decide
  have hzero : (Text.fill 4301 '1').head? ≠ some ('0' : CodePoint) := by
    rw [Text.fill, List.head?_replicate]
    decide
  have hstrays : Answer.Strays (longIntegerService [] request)
      (.unexpected (.badValue (Json.digitsMessage (Text.fill 4301 '1').length))) :=
    Answer.long_integer_strays hdigits hzero (by rw [hlength]; decide) (by decide)
  rwa [hlength] at hstrays

/-- The default configuration can ask for something. -/
theorem default_request :
    ∃ request, Request.make {} "Print hello world" "python" = .ok request ∧
      Answer.addressProblem? request = none := by
  have haddress : (Request.make {} "Print hello world" "python").toOption.any
      (fun request => request.url.head? != some ('/' : CodePoint)) = true := by decide +kernel
  cases hmake : Request.make {} "Print hello world" "python" with
  | error fault =>
    rw [hmake] at haddress
    cases haddress
  | ok request =>
    rw [hmake] at haddress
    refine ⟨request, rfl, ?_⟩
    rw [Answer.addressProblem?, if_neg (by simpa [Except.toOption] using haddress)]

end Exchange

end ProseCompiler
