import DiscoPtp.Model.Http
import DiscoPtp.Library.PrefixMatch

/-!
# The pages of the HTTP server

The server compares the start of its buffer with six strings, whatever the length of the request.
The page depends on the request alone unless the request is a proper beginning of one of the
strings; the connection is closed once unless `read` fails.

## Main definitions

* `httpComparisons`: the strings in the order of the comparisons, with their pages
* `ServesRequest`: the page depends on the request alone, and the connection is closed once

## Main results

* `strncmp_eq_zero_iff`: a comparison with the whole string looks for it at the start
* `httpPage_eq`: the page is that of the first string found
* `httpServerThread_open`: every failed `read` leaves a connection open
* `servesRequest_iff`: the requests that are served as promised
-/

namespace Ptpd

open PrefixMatch

/-! ## Comparisons -/

/-- The strings in the order of the comparisons, the number of characters compared and the page. -/
def httpComparisons : List (String × ℕ × HttpPage) :=
  [("GET /STM32F7xx_files/ST.gif", 27, .file "/STM32F7xx_files/ST.gif"),
    ("GET /STM32F7xx_files/stm32.jpg", 30, .file "/STM32F7xx_files/stm32.jpg"),
    ("GET /STM32F7xx_files/logo.jpg", 29, .file "/STM32F7xx_files/logo.jpg"),
    ("GET /STM32F7xxTASKS.html", 24, .dynWebPage),
    ("GET /STM32F7xx.html", 19, .file "/STM32F7xx.html"),
    ("GET / ", 6, .file "/STM32F7xx.html")]

/-- The strings as characters, with their pages. -/
def httpPatterns : List (List UInt8 × HttpPage) :=
  httpComparisons.map fun c => (ascii c.1, c.2.2)

/-- Every comparison looks at the whole string, which has no zero. -/
theorem httpComparisons_whole :
    ∀ c ∈ httpComparisons, c.2.1 = (ascii c.1).length ∧ (0 : UInt8) ∉ ascii c.1 := by
  decide +kernel

theorem strncmpFrom_eq_zero_iff {s : ℕ → UInt8} {t : List UInt8} (ht : (0 : UInt8) ∉ t)
    (n i : ℕ) (hn : i + n ≤ t.length) :
    strncmpFrom s t n i = 0 ↔ ∀ j, i ≤ j → j < i + n → s j = t.getD j 0 := by
  -- induction on the characters left
  induction n generalizing i with
  | zero => exact iff_of_true rfl fun j hij hj => absurd hj (by omega)
  | succ n ih =>
    have hnonzero : t.getD i 0 ≠ 0 := by
      rw [List.getD_eq_getElem t 0 (by omega)]
      exact fun h => ht (h ▸ List.getElem_mem _)
    unfold strncmpFrom
    by_cases hs : s i = t.getD i 0
    · rw [if_neg (not_not.mpr hs), if_neg (hs ▸ hnonzero), ih (i + 1) (by omega)]
      constructor
      · intro h j hij hj
        rcases Nat.eq_or_lt_of_le hij with rfl | hlt
        · exact hs
        · exact h j hlt (by omega)
      · exact fun h j hij hj => h j (by omega) (by omega)
    · rw [if_pos hs]
      refine iff_of_false (fun h => hs ?_) fun h => hs (h i le_rfl (by omega))
      apply UInt8.toNat.inj
      omega

/-- **A comparison with a whole string** looks for it at the start. -/
theorem strncmp_eq_zero_iff {c : String × ℕ × HttpPage} (hc : c ∈ httpComparisons)
    (s : ℕ → UInt8) : strncmp s c.1 c.2.1 = 0 ↔ StartsWith s (ascii c.1) := by
  obtain ⟨hlength, hzero⟩ := httpComparisons_whole c hc
  rw [strncmp, strncmpFrom_eq_zero_iff hzero _ _ (by omega), hlength]
  constructor
  · intro h i hi
    rw [h i (Nat.zero_le i) (by omega)]
    exact List.getD_eq_getElem _ 0 hi
  · intro h j _ hj
    rw [h j (by omega)]
    exact (List.getD_eq_getElem _ 0 _).symm

/-- The page is that of the first string found at the start of the buffer. -/
theorem httpPage_eq (s : ℕ → UInt8) :
    httpPage s = firstMatch httpPatterns (.file "/404.html") s := by
  have hiff (c : String × ℕ × HttpPage) (hc : c ∈ httpComparisons) := strncmp_eq_zero_iff hc s
  simp only [httpComparisons, List.forall_mem_cons] at hiff
  obtain ⟨hst, hstm32, hlogo, htasks, hmain, hroot, -⟩ := hiff
  simp only [httpPatterns, httpComparisons, List.map_cons, List.map_nil, firstMatch_cons,
    firstMatch_nil]
  unfold httpPage
  simp only [hst, hstm32, hlogo, htasks, hmain, hroot]
  -- the last two strings have one page
  split_ifs <;> simp_all

/-! ## The page of a request -/

theorem httpPatterns_nonzero : ∀ e ∈ httpPatterns, (0 : UInt8) ∉ e.1 := by decide +kernel

/-- No string is a beginning of another one. -/
theorem httpPatterns_free :
    ∀ e ∈ httpPatterns, ∀ e' ∈ httpPatterns, e.1 <+: e'.1 → e.1 = e'.1 := by
  decide +kernel

theorem httpPatterns_found : ∀ e ∈ httpPatterns, e.2 ≠ .file "/404.html" := by decide +kernel

theorem forall_httpPatterns {P : List UInt8 → Prop} :
    (∀ e ∈ httpPatterns, P e.1) ↔ ∀ c ∈ httpComparisons, P (ascii c.1) := by
  unfold httpPatterns
  exact List.forall_mem_map

/-- The page is the same after every previous contents of the buffer exactly when the request is no
proper beginning of a string. -/
theorem httpPage_recvBuffer_iff (request : HttpRequest) :
    (∀ stale stale', httpPage (recvBuffer request stale) = httpPage (recvBuffer request stale')) ↔
      ∀ c ∈ httpComparisons, ¬Undecided request.octets (ascii c.1) := by
  rw [← forall_httpPatterns (P := fun t => ¬Undecided request.octets t),
    ← firstMatch_fill_iff httpPatterns_nonzero httpPatterns_free httpPatterns_found request.octets]
  simp only [httpPage_eq]
  rfl

/-- **What is promised for a connection**: page and comparisons do not depend on what the buffer
held before, and the connection is closed exactly once. -/
structure ServesRequest (outcome : Option HttpRequest) : Prop where
  page : ∀ request ∈ outcome, ∀ stale stale',
    httpPage (recvBuffer request stale) = httpPage (recvBuffer request stale')
  comparisons : ∀ request ∈ outcome, ∀ c ∈ httpComparisons, ∀ stale stale',
    strncmp (recvBuffer request stale) c.1 c.2.1 = 0 ↔
      strncmp (recvBuffer request stale') c.1 c.2.1 = 0
  closed : ∀ stale, (httpServerServe stale outcome).count .close = 1

/-- A decided comparison has the same result for every previous contents of the buffer. -/
theorem strncmp_recvBuffer {request : HttpRequest} {c : String × ℕ × HttpPage}
    (hc : c ∈ httpComparisons) (h : ¬Undecided request.octets (ascii c.1)) (stale : ℕ → UInt8) :
    strncmp (recvBuffer request stale) c.1 c.2.1 = 0 ↔ ascii c.1 <+: request.octets := by
  rw [strncmp_eq_zero_iff hc]
  exact startsWith_fill_iff h

theorem sendPage_count_close (page : HttpPage) : (sendPage page).count .close = 0 := by
  cases page <;> rfl

/-- A connection is closed exactly once unless `read` fails. -/
theorem httpServerServe_count_close (stale : ℕ → UInt8) (outcome : Option HttpRequest) :
    (httpServerServe stale outcome).count .close = if outcome.isSome then 1 else 0 := by
  cases outcome with
  | none => rfl
  | some request =>
    simp [httpServerServe, sendPage_count_close]

theorem httpServerServe_count_accept (stale : ℕ → UInt8) (outcome : Option HttpRequest) :
    (httpServerServe stale outcome).count .accept = 0 := by
  cases outcome with
  | none => rfl
  | some request =>
    have hpage (page : HttpPage) : (sendPage page).count .accept = 0 := by cases page <;> rfl
    simp [httpServerServe, hpage]

/-- Every failed `read` leaves a connection open. -/
theorem httpServerThread_open (connections : List ((ℕ → UInt8) × Option HttpRequest)) :
    (httpServerThread connections).count .accept =
      (httpServerThread connections).count .close +
        connections.countP fun c => c.2.isNone := by
  induction connections with
  | nil => rfl
  | cons c connections ih =>
    have hcons : httpServerThread (c :: connections) =
        .accept :: httpServerServe c.1 c.2 ++ httpServerThread connections := rfl
    rw [hcons, List.count_append, List.count_append, List.count_cons_self,
      httpServerServe_count_accept, List.count_cons_of_ne (by decide),
      httpServerServe_count_close, List.countP_cons, ih]
    cases c.2 with
    | none => simp; omega
    | some request => simp; omega

/-- **The requests that are served as promised**: those that are read at all and are no proper
beginning of a string. -/
theorem servesRequest_iff (outcome : Option HttpRequest) :
    ServesRequest outcome ↔
      ∃ request, outcome = some request ∧
        ∀ c ∈ httpComparisons, ¬Undecided request.octets (ascii c.1) := by
  constructor
  · intro h
    have hclosed := h.closed fun _ => 0
    rw [httpServerServe_count_close] at hclosed
    cases outcome with
    | none => exact absurd hclosed (by decide)
    | some request =>
      exact ⟨request, rfl, (httpPage_recvBuffer_iff request).mp (h.page request rfl)⟩
  · rintro ⟨request, rfl, h⟩
    refine ⟨?_, ?_, fun stale => httpServerServe_count_close stale _⟩
    · rintro _ ⟨⟩
      exact (httpPage_recvBuffer_iff request).mpr h
    · rintro _ ⟨⟩ c hc stale stale'
      rw [strncmp_recvBuffer hc (h c hc), strncmp_recvBuffer hc (h c hc)]

/-- The first part of a request that comes in two. -/
def splitRequest : HttpRequest := { octets := ascii "GET /STM32F7xx", fits := by decide }

/-- It is taken for the request before it, or answered as not found. -/
theorem splitRequest_pages :
    httpPage (recvBuffer splitRequest fun i => (ascii "GET /STM32F7xxTASKS.html ").getD i 0) =
        .dynWebPage ∧
      httpPage (recvBuffer splitRequest fun _ => 0) = .file "/404.html" := by
  decide +kernel

theorem stale_request_served : ¬∀ outcome, ServesRequest outcome := by
  intro h
  have hsame := (h (some splitRequest)).page splitRequest rfl
    (fun i => (ascii "GET /STM32F7xxTASKS.html ").getD i 0) fun _ => 0
  rw [splitRequest_pages.1, splitRequest_pages.2] at hsame
  cases hsame

end Ptpd
