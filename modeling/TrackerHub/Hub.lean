import TrackerHub.Agent.Tracker
import TrackerHub.Aggregate
import TrackerHub.Catalog
import TrackerHub.Config.Basic

/-! # The hub

The hub puts the parts together: the catalog that its configuration names, the settings of sites and
the servers they live on. It makes a tracker for each key; one key stands for all enabled sites.
-/
namespace TrackerHub

structure Hub where
  config : Config := {}
  files : Files := {}
  sites : Sites := {}
  server : Web.Server
  now : Time.DateTime

namespace Hub

def aggregateKey : String := "aggregate"

def catalog (h : Hub) : Catalog := [⟨h.config.definitionDirs⟩]

def sessionSettings (c : Config) : Web.SessionSettings :=
  { userAgent := c.userAgent, followRedirects := c.followRedirects }

def agentFor (h : Hub) (d : Definition) : Agent :=
  { definition := d, sites := h.sites, server := h.server, now := h.now }

def agent (h : Hub) (key : String) : Except CatalogError Agent :=
  (h.catalog.load h.files key).map h.agentFor

def enabledAgents (h : Hub) : Except CatalogError (List Agent) :=
  (h.catalog.enabled h.files h.sites).map fun ds => ds.map h.agentFor

inductive Member where
  | one (a : Agent)
  | all (agents : List Agent)

def member (h : Hub) (key : String) : Except CatalogError Member :=
  if key == aggregateKey then h.enabledAgents.map .all else (h.agent key).map .one

def Member.tracker : Member → Tracker Web.Session AgentError
  | .one a => a.tracker
  | .all agents => Aggregate.tracker (agents.map Agent.maker)

def tracker (h : Hub) (key : String) : Except CatalogError (Tracker Web.Session AgentError) :=
  (h.member key).map Member.tracker

end Hub

end TrackerHub
