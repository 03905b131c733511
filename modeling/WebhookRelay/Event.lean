/-!
# Events and actions

- `Event`: the events that a delivery can announce.
- `Event.name`, `Event.ofName?`: their names.
- `Action`: what is done with a delivery.
-/

namespace WebhookRelay

/-- The events that a delivery can announce. -/
inductive Event where
  | branchProtectionConfiguration
  | branchProtectionRule
  | checkRun
  | checkSuite
  | codeScanningAlert
  | commitComment
  | create
  | customProperty
  | customPropertyValues
  | delete
  | dependabotAlert
  | deployKey
  | deployment
  | deploymentProtectionRule
  | deploymentReview
  | deploymentStatus
  | discussion
  | discussionComment
  | fork
  | githubAppAuthorization
  | gollum
  | installation
  | installationRepositories
  | installationTarget
  | issueComment
  | issues
  | label
  | marketplacePurchase
  | member
  | membership
  | mergeGroup
  | «meta»
  | milestone
  | orgBlock
  | organization
  | package
  | pageBuild
  | personalAccessTokenRequest
  | ping
  | project
  | projectCard
  | projectColumn
  | projectsV2
  | projectsV2Item
  | «public»
  | pullRequest
  | pullRequestReview
  | pullRequestReviewComment
  | pullRequestReviewThread
  | push
  | registryPackage
  | release
  | repository
  | repositoryAdvisory
  | repositoryDispatch
  | repositoryImport
  | repositoryRuleset
  | repositoryVulnerabilityAlert
  | secretScanningAlert
  | secretScanningAlertLocation
  | securityAdvisory
  | securityAndAnalysis
  | sponsorship
  | star
  | status
  | subIssues
  | team
  | teamAdd
  | watch
  | workflowDispatch
  | workflowJob
  | workflowRun
deriving DecidableEq, Repr

namespace Event

/-- The name of an event. -/
def name : Event → String
  | .branchProtectionConfiguration => "branch_protection_configuration"
  | .branchProtectionRule => "branch_protection_rule"
  | .checkRun => "check_run"
  | .checkSuite => "check_suite"
  | .codeScanningAlert => "code_scanning_alert"
  | .commitComment => "commit_comment"
  | .create => "create"
  | .customProperty => "custom_property"
  | .customPropertyValues => "custom_property_values"
  | .delete => "delete"
  | .dependabotAlert => "dependabot_alert"
  | .deployKey => "deploy_key"
  | .deployment => "deployment"
  | .deploymentProtectionRule => "deployment_protection_rule"
  | .deploymentReview => "deployment_review"
  | .deploymentStatus => "deployment_status"
  | .discussion => "discussion"
  | .discussionComment => "discussion_comment"
  | .fork => "fork"
  | .githubAppAuthorization => "github_app_authorization"
  | .gollum => "gollum"
  | .installation => "installation"
  | .installationRepositories => "installation_repositories"
  | .installationTarget => "installation_target"
  | .issueComment => "issue_comment"
  | .issues => "issues"
  | .label => "label"
  | .marketplacePurchase => "marketplace_purchase"
  | .member => "member"
  | .membership => "membership"
  | .mergeGroup => "merge_group"
  | .«meta» => "meta"
  | .milestone => "milestone"
  | .orgBlock => "org_block"
  | .organization => "organization"
  | .package => "package"
  | .pageBuild => "page_build"
  | .personalAccessTokenRequest => "personal_access_token_request"
  | .ping => "ping"
  | .project => "project"
  | .projectCard => "project_card"
  | .projectColumn => "project_column"
  | .projectsV2 => "projects_v2"
  | .projectsV2Item => "projects_v2_item"
  | .«public» => "public"
  | .pullRequest => "pull_request"
  | .pullRequestReview => "pull_request_review"
  | .pullRequestReviewComment => "pull_request_review_comment"
  | .pullRequestReviewThread => "pull_request_review_thread"
  | .push => "push"
  | .registryPackage => "registry_package"
  | .release => "release"
  | .repository => "repository"
  | .repositoryAdvisory => "repository_advisory"
  | .repositoryDispatch => "repository_dispatch"
  | .repositoryImport => "repository_import"
  | .repositoryRuleset => "repository_ruleset"
  | .repositoryVulnerabilityAlert => "repository_vulnerability_alert"
  | .secretScanningAlert => "secret_scanning_alert"
  | .secretScanningAlertLocation => "secret_scanning_alert_location"
  | .securityAdvisory => "security_advisory"
  | .securityAndAnalysis => "security_and_analysis"
  | .sponsorship => "sponsorship"
  | .star => "star"
  | .status => "status"
  | .subIssues => "sub_issues"
  | .team => "team"
  | .teamAdd => "team_add"
  | .watch => "watch"
  | .workflowDispatch => "workflow_dispatch"
  | .workflowJob => "workflow_job"
  | .workflowRun => "workflow_run"

/-- All events. -/
def all : List Event := [
    .branchProtectionConfiguration, .branchProtectionRule, .checkRun, .checkSuite,
    .codeScanningAlert, .commitComment, .create, .customProperty, .customPropertyValues, .delete,
    .dependabotAlert, .deployKey, .deployment, .deploymentProtectionRule, .deploymentReview,
    .deploymentStatus, .discussion, .discussionComment, .fork, .githubAppAuthorization, .gollum,
    .installation, .installationRepositories, .installationTarget, .issueComment, .issues, .label,
    .marketplacePurchase, .member, .membership, .mergeGroup, .«meta», .milestone, .orgBlock,
    .organization, .package, .pageBuild, .personalAccessTokenRequest, .ping, .project,
    .projectCard, .projectColumn, .projectsV2, .projectsV2Item, .«public», .pullRequest,
    .pullRequestReview, .pullRequestReviewComment, .pullRequestReviewThread, .push,
    .registryPackage, .release, .repository, .repositoryAdvisory, .repositoryDispatch,
    .repositoryImport, .repositoryRuleset, .repositoryVulnerabilityAlert, .secretScanningAlert,
    .secretScanningAlertLocation, .securityAdvisory, .securityAndAnalysis, .sponsorship, .star,
    .status, .subIssues, .team, .teamAdd, .watch, .workflowDispatch, .workflowJob, .workflowRun]

/-- The event of a name. -/
def ofName? (s : String) : Option Event :=
  all.find? fun e => e.name == s

/-- No event is left out. -/
theorem mem_all (e : Event) : e ∈ all := by
  cases e <;> decide

/-- No two events have the same name. -/
theorem ofName?_name (e : Event) : ofName? e.name = some e := by
  have h : ∀ e ∈ all, ofName? e.name = some e := by decide +kernel
  exact h e (mem_all e)

/-- The event of a name has that name. -/
theorem ofName?_eq_some_iff {s : String} {e : Event} : ofName? s = some e ↔ e.name = s := by
  constructor
  · intro h
    rw [ofName?] at h
    have hname := List.find?_some h
    exact beq_iff_eq.mp hname
  · rintro rfl
    exact ofName?_name e

end Event

/-- What is done with a delivery. -/
inductive Action where
  | relay
  | drop
deriving DecidableEq, Repr

namespace Action

/-- The name of an action. -/
def name : Action → String
  | .relay => "relay"
  | .drop => "drop"

/-- All actions. -/
def all : List Action := [.relay, .drop]

/-- The action of a name. -/
def ofName? (s : String) : Option Action :=
  all.find? fun a => a.name == s

/-- The action of a name has that name. -/
theorem ofName?_eq_some_iff {s : String} {a : Action} : ofName? s = some a ↔ a.name = s := by
  constructor
  · intro h
    rw [ofName?] at h
    have hname := List.find?_some h
    exact beq_iff_eq.mp hname
  · rintro rfl
    cases a <;> decide +kernel

end Action

end WebhookRelay
