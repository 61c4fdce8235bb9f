import LivePages.Client.Page

/-! The reactor that ties changes and renders together. It is built in levels, one for each link
of a chain of causes, so every operation ends. -/

namespace LivePages

/-- The reactor for chains of at most `n` changes and renders that cause each other. Where a longer
chain is cut off, the value is still stored. -/
def Reactor.level : Nat → Reactor
  | 0 =>
    { set := fun s v c =>
        let c := c.onHost (Host.onStore s fun store => { store with value := v })
        if (c.listeners s).isEmpty then c else { c with exhausted := true }
      render := fun c => (false, if c.state = .idle then { c with exhausted := true } else c) }
  | n + 1 =>
    let inner := level n
    { set := Client.setStore inner
      render := fun c =>
        let (result, c) := c.requestRender inner none
        (result.toOption.getD false, c) }

/-- How long chains of changes and renders may become. -/
def maxChain : Nat := 1000

namespace Client

def reactor : Reactor := Reactor.level maxChain

end Client

end LivePages
