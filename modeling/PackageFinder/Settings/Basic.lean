import PackageFinder.Decimal.Binary64
import PackageFinder.Link.Mode

/-!
# Settings

What can be set about a run, and what holds when nothing is set.
-/

namespace PackageFinder

/-- Where and how to search. -/
structure SearchSettings where
  /-- The address of the index. -/
  endpoint : String := "https://support.apple.com/kb/index"
  /-- The language that is asked for. -/
  locale : String := "en_US"
  /-- The order of the results. -/
  sort : String := "relevancy"
  /-- The group of results. -/
  facet : String := "all"
  /-- The kind of download. -/
  category : String := ""
  /-- How many pages are asked for; below `2 ^ 32`. -/
  pages : Nat := 17
  deriving DecidableEq, Repr

/-- The proxies that requests go through. -/
structure ProxySettings where
  /-- For plain requests. -/
  http : Option String := none
  /-- For encrypted requests. -/
  https : Option String := none
  /-- For all requests; it wins over the other two. -/
  all : Option String := none
  deriving DecidableEq, Repr

/-- How requests are made. -/
structure OutgoingSettings where
  /-- How long to wait for an answer, in seconds. -/
  requestTimeout : Binary64 := ⟨0x403e000000000000⟩
  /-- What the requests call themselves. -/
  userAgent : Option String := none
  /-- Whether certificates are checked. -/
  verifySsl : Bool := true
  /-- The proxies. -/
  proxies : ProxySettings := {}
  /-- How many detail pages are asked for at the same time; below `2 ^ 64`. -/
  detailConcurrency : Nat := 4
  deriving DecidableEq, Repr

/-- How links are found. -/
structure ExtractionSettings where
  /-- Which link of a page counts. -/
  matchMode : Link.MatchMode := .greedy
  deriving DecidableEq, Repr

/-- All that can be set. -/
structure Settings where
  /-- Where and how to search. -/
  search : SearchSettings := {}
  /-- How requests are made. -/
  outgoing : OutgoingSettings := {}
  /-- How links are found. -/
  extraction : ExtractionSettings := {}
  deriving DecidableEq, Repr

/-- The largest number of pages that can be set. -/
def pagesBound : Nat := UInt32.size - 1

/-- The largest concurrency that can be set. -/
def concurrencyBound : Nat := UInt64.size - 1

end PackageFinder
