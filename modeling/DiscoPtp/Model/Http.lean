import Mathlib

/-!
# HTTP server

`http_server_serve` of `httpserver-socket.c`. The request is read into a buffer on the stack, which
holds what was there before from the end of the request on.

## Main definitions

* `strncmp`: the comparison of the C library
* `HttpRequest`, `recvBuffer`: what `read` returns, and the buffer afterwards
* `httpPage`: the choice of the page
* `HttpCall`, `httpServerServe`: the calls made for a connection
* `httpServerThread`: the calls made for one connection after the other
-/

namespace Ptpd

/-- `buflen`, the size of `recv_buffer`. -/
def httpBufLen : ℕ := 1500

/-- The characters of a string literal without its terminating zero. -/
def ascii (s : String) : List UInt8 := s.toList.map fun c => UInt8.ofNat c.toNat

/-- The loop of `strncmp`, with at most `n` more characters from `i` on: the difference of the first
two that differ, or zero. The string `t` ends in a zero. -/
def strncmpFrom (s : ℕ → UInt8) (t : List UInt8) : ℕ → ℕ → ℤ
  | 0, _ => 0
  | n + 1, i =>
    if s i ≠ t.getD i 0 then (s i).toNat - (t.getD i 0).toNat
    else if s i = 0 then 0
    else strncmpFrom s t n (i + 1)

/-- `strncmp(s, t, n)`. -/
def strncmp (s : ℕ → UInt8) (t : String) (n : ℕ) : ℤ := strncmpFrom s (ascii t) n 0

/-- A request as `read` returns it: `ret` octets. -/
structure HttpRequest where
  octets : List UInt8
  fits : octets.length ≤ httpBufLen

/-- The buffer after `read`, when it held `stale` before. -/
def recvBuffer (request : HttpRequest) (stale : ℕ → UInt8) : ℕ → UInt8 :=
  fun i => request.octets.getD i (stale i)

/-- What is sent: a file, or the page of `DynWebPage`. -/
inductive HttpPage
  | file (path : String)
  | dynWebPage
  deriving DecidableEq

/-- The choice of the page. -/
def httpPage (recvBuffer : ℕ → UInt8) : HttpPage :=
  if strncmp recvBuffer "GET /STM32F7xx_files/ST.gif" 27 = 0 then .file "/STM32F7xx_files/ST.gif"
  else if strncmp recvBuffer "GET /STM32F7xx_files/stm32.jpg" 30 = 0 then
    .file "/STM32F7xx_files/stm32.jpg"
  else if strncmp recvBuffer "GET /STM32F7xx_files/logo.jpg" 29 = 0 then
    .file "/STM32F7xx_files/logo.jpg"
  else if strncmp recvBuffer "GET /STM32F7xxTASKS.html" 24 = 0 then .dynWebPage
  else if strncmp recvBuffer "GET /STM32F7xx.html" 19 = 0 ∨ strncmp recvBuffer "GET / " 6 = 0 then
    .file "/STM32F7xx.html"
  else .file "/404.html"

/-- The calls of the server. -/
inductive HttpCall
  | accept
  | read
  | fsOpen (path : String)
  | write
  | fsClose
  | close
  deriving DecidableEq

/-- The calls that send a page; `DynWebPage` sends its start and its body. -/
def sendPage : HttpPage → List HttpCall
  | .file path => [.fsOpen path, .write, .fsClose]
  | .dynWebPage => [.write, .write]

/-- `http_server_serve`, when `read` returns a request or fails. -/
def httpServerServe (stale : ℕ → UInt8) : Option HttpRequest → List HttpCall
  | none => [.read]
  | some request => .read :: sendPage (httpPage (recvBuffer request stale)) ++ [.close]

/-- The loop of `http_server_socket_thread`, for connections with these buffers and requests. -/
def httpServerThread (connections : List ((ℕ → UInt8) × Option HttpRequest)) : List HttpCall :=
  connections.flatMap fun c => .accept :: httpServerServe c.1 c.2

end Ptpd
