import LockTriage.Text.Blank

/-!
The networks whose explorers answer the same source query. Their order is the
order in which a scan visits them.
-/

namespace LockTriage

/-- A chain with an explorer of its own, in scan order. -/
inductive Network
  | arb
  | avax
  | celo
  | ethereum
  | ftm
  | gnosis
  | moonbeam
  | op
  | poly
  deriving DecidableEq, Repr

namespace Network

/-- Every network once, in scan order. -/
def all : List Network :=
  [arb, avax, celo, ethereum, ftm, gnosis, moonbeam, op, poly]

/-- Position in scan order. -/
def rank : Network → Nat
  | arb => 0
  | avax => 1
  | celo => 2
  | ethereum => 3
  | ftm => 4
  | gnosis => 5
  | moonbeam => 6
  | op => 7
  | poly => 8

/-- The short name, used for export files, directories and settings. -/
def name : Network → String
  | arb => "arb"
  | avax => "avax"
  | celo => "celo"
  | ethereum => "ethereum"
  | ftm => "ftm"
  | gnosis => "gnosis"
  | moonbeam => "moonbeam"
  | op => "op"
  | poly => "poly"

/-- The explorer endpoint that is asked unless the settings name another. -/
def defaultApiUrl : Network → String
  | arb => "https://api.arbiscan.io/api"
  | avax => "https://api.snowtrace.io/api"
  | celo => "https://api.celoscan.io/api"
  | ethereum => "https://api.etherscan.io/api"
  | ftm => "https://api.ftmscan.io/api"
  | gnosis => "https://api.gnosisscan.io/api"
  | moonbeam => "https://api.moonscan.io/api"
  | op => "https://api-optimistic.etherscan.io/api"
  | poly => "https://api.polygonscan.com/api"

/-- The environment variable that holds the API keys. -/
def keyVariable : Network → String
  | arb => "ARBISCAN_API_KEY"
  | avax => "SNOWTRACE_API_KEY"
  | celo => "CELOSCAN_API_KEY"
  | ethereum => "ETHERSCAN_API_KEY"
  | ftm => "FTMSCAN_API_KEY"
  | gnosis => "GNOSISSCAN_API_KEY"
  | moonbeam => "MOONSCAN_API_KEY"
  | op => "OPTIMISTIC_ETHERSCAN_API_KEY"
  | poly => "POLYGONSCAN_API_KEY"

/-- The network that a text names, in any case and with white space around it.
Lowering ASCII letters is enough: the only characters outside ASCII whose lower
case holds an ASCII letter are the Kelvin sign, which gives the letter `k`, and
the dotted capital I, whose lower case keeps its dot, and no name has either. -/
def ofName? (s : String) : Option Network :=
  let wanted := String.ofList ((Text.trim s.toList).map Char.toLower)
  all.find? fun n => n.name == wanted

/-- Put a network in its place in scan order. -/
def insertByRank (n : Network) : List Network → List Network
  | [] => [n]
  | m :: rest => if n.rank ≤ m.rank then n :: m :: rest else m :: insertByRank n rest

/-- Networks in scan order, each as often as it is given. -/
def sorted (networks : List Network) : List Network := networks.foldr insertByRank []

theorem mem_all (n : Network) : n ∈ all := by cases n <;> decide

theorem rank_inj {m n : Network} : m.rank = n.rank ↔ m = n := by
  cases m <;> cases n <;> decide

end Network

end LockTriage
