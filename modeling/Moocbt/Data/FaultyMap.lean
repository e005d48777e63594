import Mathlib.Logic.Function.Basic
import Mathlib.Algebra.Group.Defs

/-! A map whose operations can fail. An operation that fails has taken effect or
not; nothing else changes the map. -/

namespace FaultyMap

variable {κ ν : Type}

inductive Request (κ ν : Type) where
  | get (key : κ)
  | put (key : κ) (value : ν)
  /-- Store a value unless the key has one. -/
  | putNew (key : κ) (value : ν)
  /-- An operation on the store that is none on the map. -/
  | other

inductive Reply (ν : Type) where
  | value (value : ν)
  | done
  | failed

variable [DecidableEq κ] [Zero ν] [DecidableEq ν]

/-- The map after a request that took effect. -/
def Request.effect (map : κ → ν) : Request κ ν → κ → ν
  | .get _ => map
  | .put key value => Function.update map key value
  | .putNew key value => if map key = 0 then Function.update map key value else map
  | .other => map

/-- What a request answers when it succeeds. -/
def Request.answer (map : κ → ν) : Request κ ν → Reply ν
  | .get key => .value (map key)
  | _ => .done

/-- One request: it succeeds, or it fails with or without its effect. -/
inductive Step (map : κ → ν) (request : Request κ ν) : Reply ν → (κ → ν) → Prop
  | succeeded : Step map request (request.answer map) (request.effect map)
  | failed : Step map request .failed map
  | failedLate : Step map request .failed (request.effect map)

/-- A history of requests and replies that turns one map into another. -/
inductive Accepts : (κ → ν) → List (Request κ ν × Reply ν) → (κ → ν) → Prop
  | nil {map : κ → ν} : Accepts map [] map
  | cons {first second third : κ → ν} {request : Request κ ν} {reply : Reply ν}
      {rest : List (Request κ ν × Reply ν)} :
      Step first request reply second → Accepts second rest third →
      Accepts first ((request, reply) :: rest) third

end FaultyMap
