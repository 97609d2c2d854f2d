import XrtcServer.Base.ByteString

/-!
# Addresses and candidates

The value types of the ICE code: transport addresses (`rtc::SocketAddress`, of which the code uses
the IP address and the port), candidates (`ice/candidate.h`), credentials and the constants of
`ice/ice_def.cpp`.

Times are milliseconds. An `int` that receives a 64-bit value keeps its low 32 bits, which `toInt`
does; the other arithmetic on `int` is exact, since an overflow there has no defined result.
-/

namespace XrtcServer

/-- The conversion of an `int64_t` to `int`. -/
def toInt (x : ℤ) : ℤ := x.bmod (2 ^ 32)

/-- An address by family; the number is the address in host order. -/
inductive IPAddress
  | unspec
  | inet (addr : ℕ)
  | inet6 (addr : ℕ)
deriving DecidableEq

structure SocketAddress where
  ip : IPAddress
  port : ℕ
deriving DecidableEq

/-- The component numbers `RTP = 1` and `RTCP = 2`. -/
inductive IceCandidateComponent
  | rtp
  | rtcp
deriving DecidableEq

def IceCandidateComponent.toNat : IceCandidateComponent → ℕ
  | rtp => 1
  | rtcp => 2

structure Candidate where
  component : IceCandidateComponent
  protocol : ByteString
  address : SocketAddress
  port : ℕ := 0
  priority : UInt32
  username : ByteString
  password : ByteString
  type : ByteString
  foundation : ByteString := []
deriving DecidableEq

structure IceParameters where
  iceUfrag : ByteString := []
  icePwd : ByteString := []
deriving DecidableEq

/-! ## Constants -/

def prflxPortType : ByteString := lit "prflx"

def stunPacketSize : ℤ := 60 * 8
def weakPingInterval : ℤ := 1000 * stunPacketSize / 10000
def strongPingInterval : ℤ := 1000 * stunPacketSize / 1000
def stablingConnectionPingInterval : ℤ := 900
def stableConnectionPingInterval : ℤ := 2500
def minPingsAtWeakPingInterval : ℕ := 3
def weakConnectionReceiveTimeout : ℤ := 2500
def connectionWriteConnectFails : ℕ := 5
def connectionWriteConnectTimeout : ℤ := 5000
def connectionWriteTimeout : ℤ := 15000

def iceTypePreferencePrflx : UInt32 := 110

/-- `PING_INTERVAL_DIFF` of `ice_transport_channel.cpp`. -/
def pingIntervalDiff : ℤ := 5

/-- `RTT_RATIO`, `MIN_RTT` and `MAX_RTT` of `ice_connection.cpp`. -/
def rttRatio : ℕ := 3
def minRtt : ℤ := 100
def maxRtt : ℤ := 60000

/-- `k_min_improvement` of `ice_controller.cpp`. -/
def kMinImprovement : ℤ := 10

example : weakPingInterval = 48 ∧ strongPingInterval = 480 := by decide

end XrtcServer
